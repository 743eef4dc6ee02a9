import SenderPolicy.Idna.Direction
import SenderPolicy.Idna.Joining
import SenderPolicy.Idna.Mapping
import SenderPolicy.Idna.Punycode

/-!
# Internationalised names

The ASCII form of a name: its characters are mapped, its labels are brought into composed form and checked, and
each label that is not ASCII is written in Punycode after a marker. A label that carries the marker already is
read and checked, and kept.

Only labels beyond ASCII are checked; an ASCII label may hold any ASCII character and have any length.
-/

namespace SenderPolicy.Idna

/-- What stands before a label in Punycode. -/
def marker : Text := "xn--".toList

/-- The longest label in Punycode that is read, without its marker. -/
def maxEncoded : Nat := 2000

/-- The longest label that is written in Punycode. -/
def maxDecoded : Nat := 1000

def isAsciiText (t : Text) : Bool :=
  t.all Text.isAscii

/-- A label beyond ASCII that may stand in a name, apart from its direction: in composed form, of kept characters,
not beginning with a mark, with joiners where they make a difference, and not too long. -/
def isLabel (label : Text) : Bool :=
  composedForm label == label && label.all isKept && !label.head?.any (Table.has marks) && joinersFit [] label &&
    label.length ≤ maxDecoded

/-- A label of a name as it is read: an ASCII label, or one beyond ASCII that was checked. -/
inductive Label where
  | ascii (t : Text)
  | beyond (t : Text)
deriving DecidableEq

namespace Label

def text : Label → Text
  | ascii t | beyond t => t

def toAscii : Label → Text
  | ascii t => t
  | beyond t => marker ++ Punycode.encode t

/-- A label beyond ASCII, if it may stand in a name. -/
def beyond? (t : Text) : Option Label :=
  if !isAsciiText t && isLabel t then some (beyond t) else none

/-- The label that Punycode spells. -/
def ofEncoded? (t : Text) : Option Label :=
  if isAsciiText t ∧ t.length ≤ maxEncoded then (Punycode.decode? t).bind beyond? else none

/-- The label of a mapped text. -/
def ofMapped? (t : Text) : Option Label :=
  match marker.isPrefixOf? t with
  -- what follows a marker has to be in composed form already
  | some encoded => ofEncoded? encoded
  | none => if isAsciiText t then some (ascii t) else beyond? (composedForm t)

end Label

/-- No label of a name holds right-to-left characters, or all labels are in an order that a reader sees. -/
def haveSuitedDirections (labels : List Label) : Bool :=
  !labels.any (hasRightToLeft ·.text) || labels.all (hasSuitedDirection ·.text)

def labels? (t : Text) : Option (List Label) := do
  let labels ← (Text.pieces (· == '.') (← mapText t)).mapM Label.ofMapped?
  if haveSuitedDirections labels then some labels else none

def toAscii? (t : Text) : Option Text :=
  (labels? t).map fun labels => Text.join ['.'] (labels.map Label.toAscii)

end SenderPolicy.Idna
