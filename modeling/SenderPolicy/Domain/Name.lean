import SenderPolicy.Text.Blank
import SenderPolicy.Text.Bytes
import SenderPolicy.Text.Numeral

/-!
# Domain names

What makes a text a fully qualified name, the order of names by their labels, and the two reductions the
evaluation needs: dropping leading labels until a name fits, and the key under which names count as one.
-/

namespace SenderPolicy.DomainName

/-- The longest name, in bytes. -/
def maxLength : Nat := 253

/-- The longest label, in bytes. -/
def maxLabelLength : Nat := 63

/-- Why a text is no fully qualified name. -/
inductive Fault where
  | empty
  | tooLong (length : Nat)
  | singleLabel
  | emptyLabel
  | labelTooLong (label : Text) (length : Nat)
  | invalidCharacter (label : Text)
deriving DecidableEq

def Fault.message : Fault → Text
  | empty => "empty domain".toList
  | tooLong length => "length ".toList ++ Text.ofNat length ++ " > ".toList ++ Text.ofNat maxLength
  | singleLabel => "domain must contain at least one dot".toList
  | emptyLabel => "empty domain label".toList
  | labelTooLong label length =>
    "domain label ".toList ++ Text.quoted label ++ " length ".toList ++ Text.ofNat length ++ " > ".toList ++
      Text.ofNat maxLabelLength
  | invalidCharacter label => "domain label ".toList ++ Text.quoted label ++ " has invalid chars".toList

def labels (name : Text) : List Text :=
  Text.pieces (· == '.') name

/-- An ASCII blank or control character, which no label holds. -/
def isForbidden (c : Char) : Bool :=
  c.toNat ≤ 0x20 || c.toNat == 0x7F

def labelFault? (label : Text) : Option Fault :=
  if label.isEmpty then some .emptyLabel
  else if maxLabelLength < Text.byteLength label then some (.labelTooLong label (Text.byteLength label))
  else if label.any isForbidden then some (.invalidCharacter label)
  else none

/-- What is wrong with a name: the first fault that applies. One dot at the end is no fault. -/
def fault? (name : Text) : Option Fault :=
  let name := Text.dropDot name
  if name.isEmpty then some .empty
  else if maxLength < Text.byteLength name then some (.tooLong (Text.byteLength name))
  else if !name.contains '.' then some .singleLabel
  else (labels name).findSome? labelFault?

/-- A fully qualified name of at least two labels. -/
def isValid (name : Text) : Bool :=
  (fault? name).isNone

/-- The name without as many leading labels as keep it from fitting; the last label is always kept. -/
def truncate (name : Text) : Text :=
  if Text.byteLength name ≤ maxLength then name
  else
    match _h : name.dropWhile (· != '.') with
    -- the last label stays, however long it is
    | [] => name
    | _ :: rest => truncate rest
termination_by name.length
decreasing_by
  have := (List.dropWhile_sublist (l := name) (· != '.')).length_le
  rw [_h] at this
  simp only [List.length_cons] at this
  omega

/-- The names are the same, or the first lies below the second; letter case and dots at the end do not count. -/
def isSameOrBelow (name parent : Text) : Bool :=
  let name := Text.dropDots name
  let parent := Text.dropDots parent
  Text.sameLetters name parent ||
    (parent.length + 1 < name.length &&
      match name.drop (name.length - parent.length - 1) with
      | '.' :: tail => Text.sameLetters tail parent
      | _ => false)

/-- The key under which two spellings are one name: no blanks around it, no dots at its end, small letters. -/
def key (name : Text) : Text :=
  Text.lower (Text.dropDots (Text.trim name))

end SenderPolicy.DomainName
