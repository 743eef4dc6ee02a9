import SenderPolicy.Json.Decode
import SenderPolicy.Policy.Basic

/-!
# Policies as data

The JSON form of a policy, and reading it. The reader checks the shape of the data only: targets, names and values
may be any texts and prefix lengths any numbers of one byte.
-/

namespace SenderPolicy

/-- The largest prefix length that data may hold. -/
def Lengths.maxData : Nat := 255

namespace Qualifier

def dataName : Qualifier → Text
  | pass => "Pass".toList
  | fail => "Fail".toList
  | softFail => "SoftFail".toList
  | neutral => "Neutral".toList

def toJson (q : Qualifier) : Json :=
  .text q.dataName

def ofJson? (v : Json) : Option Qualifier := do
  let (name, content) ← Json.choice? v
  let q ← [pass, fail, softFail, neutral].find? (·.dataName == name)
  Json.noContent? content
  return q

end Qualifier

namespace Lengths

def toJson (l : Lengths) : Json :=
  .ofMembers [("v4".toList, .option .nat l.v4), ("v6".toList, .option .nat l.v6)]

/-- A length that may be null or missing. -/
def lengthOfJson? (v : Option Json) : Option (Option Nat) :=
  Json.nullable? (Json.nat? maxData) (v.getD .null)

def ofJson? (v : Json) : Option Lengths := do
  match ← Json.fields? ["v4".toList, "v6".toList] v with
  | [v4, v6] => return ⟨← lengthOfJson? v4, ← lengthOfJson? v6⟩
  | _ => none

end Lengths

namespace Mechanism

def targetField : Text := "domain_spec".toList

/-- The names of the two fields of a mechanism that looks addresses up. -/
def lookupFields : List Text := [targetField, "cidr".toList]

/-- The names of the two fields of a network. -/
def networkFields : List Text := ["network".toList, "prefix".toList]

def toJson : Mechanism → Json
  | all => .text "All".toList
  | includes target => .ofMembers [("Include".toList, .ofMembers [(targetField, .text target)])]
  | a target lengths => .ofMembers [("A".toList, lookup target lengths)]
  | mx target lengths => .ofMembers [("Mx".toList, lookup target lengths)]
  | ptr target => .ofMembers [("Ptr".toList, .ofMembers [(targetField, .option .text target)])]
  | ip4 network length => .ofMembers [("Ip4".toList, net network.text length)]
  | ip6 network length => .ofMembers [("Ip6".toList, net network.text length)]
  | existing target => .ofMembers [("Exists".toList, .ofMembers [(targetField, .text target)])]
where
  /-- The content of a mechanism that looks addresses up. -/
  lookup (target : Option Text) (lengths : Lengths) : Json :=
    .ofMembers [(targetField, .option .text target), ("cidr".toList, lengths.toJson)]
  /-- The content of a network. -/
  net (network : Text) (length : Option Nat) : Json :=
    .ofMembers [("network".toList, .text network), ("prefix".toList, .option .nat length)]

/-- A target that may be null or missing. -/
def targetOfJson? (v : Option Json) : Option (Option Text) :=
  Json.nullable? Json.text? (v.getD .null)

/-- The content of a mechanism that needs a target. -/
def requiredOfJson? (v : Json) : Option Text := do
  match ← Json.fields? [targetField] v with
  | [some target] => Json.text? target
  | _ => none

/-- The content of a mechanism that looks addresses up. -/
def lookupOfJson? (v : Json) : Option (Option Text × Lengths) := do
  match ← Json.fields? lookupFields v with
  | [target, some lengths] => return (← targetOfJson? target, ← Lengths.ofJson? lengths)
  | _ => none

def networkOfJson? {α : Type} (ofText? : Text → Option α) (v : Json) : Option (α × Option Nat) := do
  match ← Json.fields? networkFields v with
  | [some network, length] => return (← (Json.text? network).bind ofText?, ← Lengths.lengthOfJson? length)
  | _ => none

def ofContent? (name : Text) (content : Json) : Option Mechanism :=
  if name = "Include".toList then (requiredOfJson? content).map includes
  else if name = "Exists".toList then (requiredOfJson? content).map existing
  else if name = "A".toList then (lookupOfJson? content).map fun (target, lengths) => a target lengths
  else if name = "Mx".toList then (lookupOfJson? content).map fun (target, lengths) => mx target lengths
  else if name = "Ptr".toList then do
    match ← Json.fields? [targetField] content with
    | [target] => return ptr (← targetOfJson? target)
    | _ => none
  else if name = "Ip4".toList then
    (networkOfJson? V4.ofText? content).map fun (network, length) => ip4 network length
  else if name = "Ip6".toList then
    (networkOfJson? V6.ofText? content).map fun (network, length) => ip6 network length
  else none

def ofJson? (v : Json) : Option Mechanism := do
  let (name, content) ← Json.choice? v
  if name = "All".toList then
    Json.noContent? content
    return all
  else
    ofContent? name (← content)

end Mechanism

namespace Directive

def toJson (d : Directive) : Json :=
  .ofMembers [("qualifier".toList, d.qualifier.toJson), ("mechanism".toList, d.mechanism.toJson)]

def ofJson? (v : Json) : Option Directive := do
  match ← Json.fields? ["qualifier".toList, "mechanism".toList] v with
  | [some q, some m] => return ⟨← Qualifier.ofJson? q, ← Mechanism.ofJson? m⟩
  | _ => none

end Directive

namespace Modifier

def toJson : Modifier → Json
  | redirect target => .ofMembers [("Redirect".toList, .text target)]
  | explanation target => .ofMembers [("Exp".toList, .text target)]
  | unknown name value =>
    .ofMembers [("Unknown".toList, .ofMembers [("name".toList, .text name), ("value".toList, .text value)])]

def ofJson? (v : Json) : Option Modifier := do
  let (name, content) ← Json.choice? v
  let content ← content
  if name = "Redirect".toList then (Json.text? content).map redirect
  else if name = "Exp".toList then (Json.text? content).map explanation
  else if name = "Unknown".toList then
    match ← Json.fields? ["name".toList, "value".toList] content with
    | [some name, some value] => return unknown (← Json.text? name) (← Json.text? value)
    | _ => none
  else none

end Modifier

namespace Term

def toJson : Term → Json
  | directive d => .ofMembers [("Directive".toList, d.toJson)]
  | modifier m => .ofMembers [("Modifier".toList, m.toJson)]

def ofJson? (v : Json) : Option Term := do
  let (name, content) ← Json.choice? v
  let content ← content
  if name = "Directive".toList then (Directive.ofJson? content).map directive
  else if name = "Modifier".toList then (Modifier.ofJson? content).map modifier
  else none

end Term

namespace Policy

def toJson (p : Policy) : Json :=
  .ofMembers [("terms".toList, .array (p.terms.map Term.toJson))]

def ofJson? (v : Json) : Option Policy := do
  match ← Json.fields? ["terms".toList] v with
  | [some (.array items)] => return ⟨← items.mapM Term.ofJson?⟩
  | _ => none

end Policy

end SenderPolicy
