import SenderPolicy.Json.Basic

/-!
# Data from JSON

How records, choices and numbers are read from JSON values. A record is an object with named fields, of which
unknown ones are skipped and none is given twice; it may also be an array of the fields in their order. A choice
is a string that names it, or an object with its name and its content.
-/

namespace SenderPolicy.Json

def text? : Json → Option Text
  | string content => content
  | _ => none

/-- A natural number of at most `most`, written in digits only. -/
def nat? (most : Nat) : Json → Option Nat
  | number lexeme => (Text.numeral? lexeme).filter (· ≤ most)
  | _ => none

def nullable? {α : Type} (read : Json → Option α) : Json → Option (Option α)
  | null => some none
  | v => (read v).map some

/-- The value of a field of an object: none in it, or the one that is given, but not two. -/
def member? (members : List (Text × Json)) (name : Text) : Option (Option Json) :=
  match members.filter (·.1 == name) with
  | [] => some none
  | [(_, v)] => some (some v)
  | _ => none

/-- The members of an object whose names are all texts. -/
def namedMembers? (members : List (Option Text × Json)) : Option (List (Text × Json)) :=
  members.mapM fun (name, v) => name.map (·, v)

/-- The values of the named fields of a record, of which those at the end may be missing from an array. -/
def looseFields? (names : List Text) : Json → Option (List (Option Json))
  | object members => do
    let members ← namedMembers? members
    names.mapM (member? members)
  | array items =>
    if items.length ≤ names.length then
      some (items.map some ++ List.replicate (names.length - items.length) none)
    else
      none
  | _ => none

/-- The values of the named fields of a record, none of which may be missing from an array. -/
def fields? (names : List Text) : Json → Option (List (Option Json))
  | array items => if items.length = names.length then some (items.map some) else none
  | v => looseFields? names v

/-- The name of a choice and its content; a string names a choice without content. -/
def choice? : Json → Option (Text × Option Json)
  | string (some name) => some (name, none)
  | object [(some name, v)] => some (name, some v)
  | _ => none

/-- The content of a choice that has none, which may also be written as null. -/
def noContent? : Option Json → Option Unit
  | none | some null => some ()
  | _ => none

end SenderPolicy.Json
