import SenderPolicy.Evaluation.Matching

/-!
# Evaluation

The evaluation of the policy that a domain publishes: the first directive that matches decides, else a redirection
hands the decision over, else the result is neutral.

Inclusions and redirections evaluate further policies, each after a lookup was charged. So levels nest no deeper
than lookups remain, and the evaluation is recursion on their number.

How a failure is explained is a parameter of `evaluateWith`, so that the evaluation without any explanation can be
set beside `evaluate`.
-/

namespace SenderPolicy.Engine

variable {σ : Type} (E : Engine σ)

/-- How a policy explains a failure. -/
abbrev Explainer (σ : Type) : Type :=
  Policy → Request → Probe σ (Option Text)

/-- The explainer that sends no query and explains nothing. -/
def silent : Explainer σ :=
  fun _ _ => return none

/-- The evaluation that a redirection hands over to. It is an error if the domain has no policy. -/
def redirected (nested : Request → Check σ Evaluation) (r : Request) (target : Text) : Check σ Evaluation := do
  Check.charge
  let domain ← E.targetDomain r target
  let evaluation ← nested (r.descend domain)
  if evaluation.verdict = .none then throw (.redirectWithoutPolicy domain)
  return evaluation

def decide (explainer : Explainer σ) (nested : Request → Check σ Evaluation) (r : Request) (p : Policy) :
    Check σ Evaluation := do
  match ← E.firstMatch nested r p.directives with
  | some d =>
    let explanation ← if d.qualifier = .fail then explainer p r else pure none
    return ⟨d.qualifier.verdict, explanation⟩
  | none =>
    match p.redirect? with
    | some target => E.redirected nested r target
    | none => return ⟨.neutral, none⟩

/-- One level of an evaluation. Without a valid domain or a policy the result is none. -/
def level (explainer : Explainer σ) (nested : Request → Check σ Evaluation) (r : Request) :
    Check σ Evaluation := do
  Check.enter r.domain r.depth
  -- a level that is too deep counts as entered
  if E.options.maxDepth < r.depth then throw (.depthLimit E.options.maxDepth)
  -- only the outermost level can end so without an error: the ones that nest levels turn it into one
  if !DomainName.isValid r.domain then return ⟨.none, none⟩
  match ← E.policyAt r.domain with
  | none => return ⟨.none, none⟩
  | some p => E.decide explainer nested r p

/-- An evaluation of a level and at most `n` levels nested in it. A level nested deeper would have to be charged
after the last lookup that remains, so it fails as the charge does. -/
def nest (explainer : Explainer σ) : Nat → Request → Check σ Evaluation
  | 0 => E.level explainer fun _ => do throw (.lookupLimit (← get).budget.maxLookups)
  | n + 1 => E.level explainer (nest explainer n)

/-- The evaluation of a request, with a way to explain a failure. -/
def evaluateWith (explainer : Explainer σ) (r : Request) : Check σ Evaluation := do
  E.nest explainer (← get).budget.remaining r

def evaluate (r : Request) : Check σ Evaluation :=
  E.evaluateWith E.explain r

end SenderPolicy.Engine
