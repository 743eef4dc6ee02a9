import SenderPolicy.Text.Numeral

/-!
# JSON values

The values of the JSON format. A number is kept as it was written, and the members of an object in the order in
which they were written, so that a reader can tell a member given twice. A string written with an unpaired
surrogate stands for no text.
-/

namespace SenderPolicy

/-- A JSON value. -/
inductive Json where
  | null
  | bool (b : Bool)
  | number (lexeme : Text)
  | string (content : Option Text)
  | array (items : List Json)
  | object (members : List (Option Text × Json))

namespace Json

def text (t : Text) : Json :=
  string (some t)

def nat (n : Nat) : Json :=
  number (Text.ofNat n)

/-- A value that may be absent, which is then null. -/
def option {α : Type} (f : α → Json) : Option α → Json
  | none => null
  | some a => f a

/-- An object with the given members, in order. -/
def ofMembers (members : List (Text × Json)) : Json :=
  object (members.map fun (name, value) => (some name, value))

end Json

end SenderPolicy
