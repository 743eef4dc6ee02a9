import SenderPolicy.Address.Basic
import SenderPolicy.Domain.Mailbox
import SenderPolicy.Template.Parser
import SenderPolicy.Text.Percent

/-!
# Expanding a template

The values that the letters of a template stand for in one mail transaction, and the text that results when
every expression is replaced by its transformed value.
-/

namespace SenderPolicy

/-- The data of a mail transaction that a template can refer to. -/
structure Transaction where
  sender : Text
  mailbox : Mailbox
  /-- The domain whose policy is evaluated. -/
  domain : Text
  client : Address
  helo : Text
  /-- A reverse name of the client that leads back to it. -/
  validatedName : Option Text
  receiver : Text
  /-- The time, in seconds since the epoch. -/
  now : Nat
deriving DecidableEq

namespace Transaction

def unknown : Text := "unknown".toList

/-- The address with a dot between any two octets of IPv4, or any two digits of IPv6. -/
def dotted : Address → Text
  | .v4 a => a.text
  | .v6 a => Text.join ['.'] (a.nibbles.map fun n => [Text.hexDigit n.toNat])

/-- The label of reverse names for the family of an address. -/
def family : Address → Text
  | .v4 _ => "in-addr".toList
  | .v6 _ => "ip6".toList

def value (x : Transaction) : Letter → Text
  | .sender => x.sender
  | .localPart => x.mailbox.localPart
  | .senderDomain => x.mailbox.domain
  | .domain => x.domain
  | .address => dotted x.client
  | .validatedName => x.validatedName.getD unknown
  | .addressFamily => family x.client
  | .helo => x.helo
  | .clientAddress => x.client.text
  | .receiver => x.receiver
  | .time => Text.ofNat x.now

end Transaction

namespace Transformer

/-- A character that ends a label. -/
def isDelimiter (f : Transformer) (c : Char) : Bool :=
  if f.delimiters.isEmpty then c == '.' else f.delimiters.contains c

/-- The last labels of a list, as many as are to be kept. -/
def kept (f : Transformer) (labels : List Text) : List Text :=
  match f.keep with
  | none => labels
  | some k => labels.drop (labels.length - k)

/-- The value cut into labels, transformed, and put together with dots. -/
def apply (f : Transformer) (value : Text) : Text :=
  let labels := Text.pieces f.isDelimiter value
  Text.join ['.'] (f.kept (if f.reverse then labels.reverse else labels))

end Transformer

namespace Expression

def expand (x : Transaction) (e : Expression) : Text :=
  let value := e.transformer.apply (x.value e.letter)
  if e.encoded then Text.percentEncode value else value

end Expression

namespace Template

def expandPiece (x : Transaction) : Piece → Text
  | .copy c => [c]
  | .expand e => e.expand x

def render (x : Transaction) (t : Template) : Text :=
  t.flatMap (expandPiece x)

def expand (scope : Scope) (x : Transaction) (t : Text) : Except Error Text :=
  (parse scope t).map (render x)

end Template

end SenderPolicy
