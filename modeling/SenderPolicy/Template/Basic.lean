import SenderPolicy.Text.Numeral

/-!
# Macro-strings

A template is text in which expressions between braces stand for data of the mail transaction. Read, it is a
list of pieces: characters to copy, and expressions to replace. Three letters are reserved to templates of
explanations.
-/

namespace SenderPolicy

/-- Where a template stands. -/
inductive Scope where
  | domain
  | explanation
deriving DecidableEq

/-- What a letter of an expression stands for. -/
inductive Letter where
  | sender
  | localPart
  | senderDomain
  | domain
  | address
  | validatedName
  | addressFamily
  | helo
  | clientAddress
  | receiver
  | time
deriving DecidableEq

namespace Letter

/-- The letters, in either case. -/
def ofChar? (c : Char) : Option Letter :=
  match c.toLower with
  | 's' => some sender
  | 'l' => some localPart
  | 'o' => some senderDomain
  | 'd' => some domain
  | 'i' => some address
  | 'p' => some validatedName
  | 'v' => some addressFamily
  | 'h' => some helo
  | 'c' => some clientAddress
  | 'r' => some receiver
  | 't' => some time
  | _ => none

/-- Letters that only explanations may use. -/
def isReserved : Letter → Bool
  | clientAddress | receiver | time => true
  | _ => false

end Letter

/-- What is done to a value: it is cut at delimiters, its labels are perhaps reversed, and only the last of them
are kept. -/
structure Transformer where
  /-- How many labels are kept; all if absent. -/
  keep : Option Nat
  reverse : Bool
  /-- The characters that end a label; the dot if there are none. -/
  delimiters : List Char
deriving DecidableEq

/-- An expression of a template. -/
structure Expression where
  letter : Letter
  /-- The value is percent-encoded, which a capital letter asks for. -/
  encoded : Bool
  transformer : Transformer
deriving DecidableEq

/-- A piece of a template. -/
inductive Piece where
  | copy (c : Char)
  | expand (e : Expression)
deriving DecidableEq

/-- A template that was read. -/
abbrev Template := List Piece

namespace Template

/-- Why a text is no template. -/
inductive Error where
  | unterminated
  | trailingPercent
  | invalidEscape (c : Char)
  | unknownLetter (c : Char)
  | explanationOnly (c : Char)
  | invalidTransformer (body : Text)
  | empty
deriving DecidableEq

def Error.message : Error → Text
  | unterminated => "unterminated macro expression".toList
  | trailingPercent => "lone '%' at end of macro-string".toList
  | invalidEscape c => "invalid escape ".toList ++ Text.quoted ['%', c]
  | unknownLetter c => "unknown macro letter ".toList ++ Text.quoted [c]
  | explanationOnly c => "macro letter ".toList ++ Text.quoted [c] ++ " is only allowed in explanations".toList
  | invalidTransformer body => "invalid macro transformer ".toList ++ Text.quoted body
  | empty => "empty macro expression".toList

/-- Some expression of the template stands for the validated name of the client. -/
def usesValidatedName (t : Template) : Bool :=
  t.any fun
    | .expand e => e.letter == .validatedName
    | .copy _ => false

/-- The template ends in an expression, so that only its expansion tells its last label. -/
def endsInExpression (t : Template) : Bool :=
  match t.getLast? with
  | some (.expand _) => true
  | _ => false

end Template

end SenderPolicy
