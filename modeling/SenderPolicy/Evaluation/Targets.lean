import SenderPolicy.Evaluation.Names
import SenderPolicy.Policy.Selection

/-!
# Targets and explanations

Templates of a policy, expanded for a request. The name of the client is looked up only for a template that uses
it. An expanded domain loses the dots at its end and as many leading labels as keep it from fitting. An
explanation is left out if anything goes wrong on the way to it, and costs nothing of the budget.
-/

namespace SenderPolicy.Engine

variable {σ : Type} (E : Engine σ)

def expand (scope : Scope) (r : Request) (template : Text) : Probe σ (Except Template.Error Text) := do
  let name ← if Template.holds Template.usesValidatedName template then E.validatedName r else pure none
  return Template.expand scope (E.transaction r name) template

/-- An expanded text as a domain name. -/
def domainOfExpansion (t : Text) : Text :=
  Text.lower (DomainName.truncate (Text.dropDots t))

def expandDomain (r : Request) (target : Text) : Probe σ (Except Template.Error Text) := do
  return (← E.expand .domain r target).map domainOfExpansion

/-- The domain that a target expands to for a request; the check fails if the target is malformed. -/
def targetDomain (r : Request) (target : Text) : Check σ Text := do
  match ← E.expandDomain r target with
  | .ok domain => return domain
  | .error e => throw (.template e)

/-- The domain of a target, or that of the request if there is no target. -/
def domainOrOwn (r : Request) : Option Text → Check σ Text
  | some target => E.targetDomain r target
  | none => return r.domain

/-- The explanation that a policy gives for a failure, if all goes well. -/
def explain (p : Policy) (r : Request) : Probe σ (Option Text) := do
  -- whatever is missing or fails from here on leaves the failure without an explanation
  let some target := p.explanation? | return none
  let .ok domain ← E.expandDomain r target | return none
  if !DomainName.isValid domain then return none
  let .ok (text :: _) ← Probe.ask E.resolver (.txt domain) | return none
  return (← E.expand .explanation r text).toOption

end SenderPolicy.Engine
