import SenderPolicy.Proofs.Agreement
import SenderPolicy.Proofs.Spending

/-!
# Checks made of small steps

All that an engine does short of entering a level is made of a few small steps in a row: it asks the resolver, charges a
lookup, counts an empty answer, ends or fails. So a property of checks that these steps have, and that is handed on from
checks to their sequence (`Engine.Compositional`), is one of every check of an engine. For the checks that levels are
nested in, the ones that nest them have to have it (`matchesClient`, `decide`).
-/

namespace SenderPolicy.Engine

variable {σ : Type}

/-- The small steps of an engine have the property, and so have checks in a row if each of them has it. -/
structure Compositional (E : Engine σ) (P : (α : Type) → Check σ α → Prop) : Prop where
  pure : ∀ {α : Type} (a : α), P α (pure a)
  throw : ∀ {α : Type} (f : Failure), P α (throw f)
  probe : ∀ {α : Type} {n : Nat} {p : Probe σ α}, E.Asks n p → P α (liftM p)
  charge : P Unit Check.charge
  recordVoid : P Unit Check.recordVoid
  bind : ∀ {α β : Type} {c : Check σ α} {k : α → Check σ β}, P α c → (∀ a, P β (k a)) → P β (c >>= k)

namespace Compositional

variable {E : Engine σ} {P : (α : Type) → Check σ α → Prop} (h : E.Compositional P)

include h

/-- Counting an empty answer and then answering has the property. -/
lemma recordVoid_bind {α : Type} (a : α) : P α (Check.recordVoid >>= fun _ => Pure.pure a) :=
  h.bind h.recordVoid fun _ => h.pure a

/-- What follows a failure is not reached. -/
lemma throw_bind {α β : Type} (f : Failure) (k : α → Check σ β) : P β (MonadExcept.throw f >>= k) := by
  have hrun : (MonadExcept.throw f >>= k : Check σ β) = MonadExcept.throw f := rfl
  rw [hrun]
  exact h.throw f

/-- Expanding a target has the property: it asks, and fails if the target is malformed. -/
lemma targetDomain (r : Request) (target : Text) : P Text (E.targetDomain r target) := by
  refine h.bind (h.probe (expandDomain_asks r target)) fun domain => ?_
  cases domain with
  | ok domain => exact h.pure domain
  | error e => exact h.throw (.template e)

/-- Finding the domain of a target has the property, also where no target is given. -/
lemma domainOrOwn (r : Request) (target : Option Text) : P Text (E.domainOrOwn r target) := by
  cases target with
  | some target => exact h.targetDomain r target
  | none => exact h.pure r.domain

/-- Looking up a policy has the property: it asks once and may fail. -/
lemma policyAt (domain : Text) : P (Option Policy) (E.policyAt domain) := by
  refine h.bind (h.probe (asks_ask _)) fun answer => ?_
  split
  · exact h.throw _
  · split
    · exact h.pure _
    · exact h.throw _

/-- Looking up addresses has the property: it asks once, may count an empty answer and may fail. -/
lemma countedAddresses (name : Text) (client : Address) : P (List Address) (E.countedAddresses name client) := by
  refine h.bind (h.probe (addresses_asks name client)) fun answer => ?_
  split
  · exact h.recordVoid_bind _
  · exact h.recordVoid_bind _
  · exact h.pure _
  · exact h.throw _

/-- Comparing the addresses of a name has the property, as looking them up has. -/
lemma nearName (name : Text) (lengths : Lengths) (client : Address) : P Bool (E.nearName name lengths client) :=
  h.bind (h.countedAddresses name client) fun _ => h.pure _

/-- Trying exchanges in a row has the property: each is charged, and its addresses are compared. -/
lemma nearExchange (lengths : Lengths) (client : Address) (xs : List Exchange) :
    P Bool (E.nearExchange lengths client xs) := by
  induction xs with
  | nil => exact h.pure false
  | cons x xs ih =>
    refine h.bind h.charge fun _ => h.bind (h.nearName x.name lengths client) fun near => ?_
    cases near with
    | true => exact h.pure true
    | false => exact ih

/-- Looking up the exchanges of a domain and trying them has the property. -/
lemma nearAnyExchange (domain : Text) (lengths : Lengths) (client : Address) :
    P Bool (E.nearAnyExchange domain lengths client) := by
  refine h.bind (h.probe (asks_ask _)) fun answer => ?_
  split
  · exact h.throw _
  · exact h.recordVoid_bind false
  · split
    · exact h.throw_bind _ _
    · exact h.nearExchange lengths client _

/-- Comparing the names of the client has the property: they are asked for, counted and confirmed. -/
lemma namedBelow (domain : Text) (client : Address) : P Bool (E.namedBelow domain client) := by
  refine h.bind (h.probe (reverseNames_asks client)) fun names => ?_
  split
  · exact h.pure false
  · exact h.recordVoid_bind false
  · exact h.bind (h.probe (confirmed_asks client _)) fun _ => h.pure _

/-- Looking for an address of a domain has the property: it asks once, may count and may fail. -/
lemma hasAddress (domain : Text) : P Bool (E.hasAddress domain) := by
  refine h.bind (h.probe (asks_ask _)) fun answer => ?_
  split
  · exact h.recordVoid_bind false
  · exact h.pure true
  · exact h.throw _

/-- Refusing a level that is too deep has the property. -/
lemma admitDepth (depth : Nat) : P Unit (E.admitDepth depth) := by
  rw [Engine.admitDepth]
  split
  · exact h.throw _
  · exact h.pure ()

/-! ## Checks that levels are nested in -/

section

variable {nested : Request → Check σ Evaluation} {r : Request} (hpassed : ∀ domain, P Bool (passedBy nested r domain))

include hpassed

/-- A mechanism has the property if the evaluation that it may include has it. -/
lemma matchesClient (m : Mechanism) : P Bool (E.matchesClient nested r m) := by
  cases m with
  | all => exact h.pure true
  | includes target => exact h.bind h.charge fun _ => h.bind (h.targetDomain r target) hpassed
  | a target lengths =>
    exact h.bind h.charge fun _ => h.bind (h.domainOrOwn r target) fun domain => h.nearName domain lengths r.client
  | mx target lengths =>
    exact h.bind h.charge fun _ => h.bind (h.domainOrOwn r target) fun domain =>
      h.nearAnyExchange domain lengths r.client
  | ptr target =>
    exact h.bind h.charge fun _ => h.bind (h.domainOrOwn r target) fun domain => h.namedBelow domain r.client
  | ip4 network length => exact h.pure _
  | ip6 network length => exact h.pure _
  | existing target => exact h.bind h.charge fun _ => h.bind (h.targetDomain r target) h.hasAddress

/-- Trying directives in a row has the property, as their mechanisms have. -/
lemma firstMatch (ds : List Directive) : P (Option Directive) (E.firstMatch nested r ds) := by
  induction ds with
  | nil => exact h.pure none
  | cons d ds ih =>
    refine h.bind (h.matchesClient hpassed d.mechanism) fun found => ?_
    cases found with
    | true => exact h.pure (some d)
    | false => exact ih

variable (hredirected : ∀ target, P Evaluation (E.redirected nested r target)) {explainer : Explainer σ} {n : Nat}

include hredirected

/-- Deciding a level has the property if the evaluation that it may hand over to has it. -/
lemma decide (hexplainer : ∀ p r, E.Asks n (explainer p r)) (p : Policy) :
    P Evaluation (E.decide explainer nested r p) := by
  refine h.bind (h.firstMatch hpassed p.directives) fun found => ?_
  split
  · split
    · exact h.bind (h.probe (hexplainer p r)) fun _ => h.pure _
    · exact h.bind (h.pure none) fun _ => h.pure _
  · split
    · exact hredirected _
    · exact h.pure _

/-- All that a level does once it is entered has the property. -/
theorem admitted (hexplainer : ∀ p r, E.Asks n (explainer p r)) :
    P Evaluation (E.admitDepth r.depth >>= fun _ => E.admitted explainer nested r) := by
  refine h.bind (h.admitDepth r.depth) fun _ => ?_
  rw [Engine.admitted]
  split
  · exact h.pure _
  · refine h.bind (h.policyAt r.domain) fun policy => ?_
    cases policy with
    | none => exact h.pure _
    | some p => exact h.decide hpassed hredirected hexplainer p

end

end Compositional

end SenderPolicy.Engine
