import Mathlib.Data.List.TakeWhile
import SenderPolicy.Policy.Parser

/-!
# Well-formed policies

A policy is more than what can be read: data may hold any target and any length. Well formed are the policies whose
targets pass their check, whose lengths fit their family, whose unknown modifiers have a name and a value of their
own, and which redirect and explain at most once.
-/

namespace SenderPolicy

/-- A text without ASCII blanks, as every word of a policy is. -/
def Text.Unbroken (t : Text) : Prop :=
  ∀ c ∈ t, isAsciiBlank c = false

instance (t : Text) : Decidable t.Unbroken :=
  List.decidableBAll _ t

/-- A target that a term may have. -/
structure Policy.IsTarget (owner target : Text) : Prop where
  checked : checkTarget owner target = .ok ()
  unbroken : target.Unbroken

instance (owner target : Text) : Decidable (Policy.IsTarget owner target) :=
  decidable_of_iff (Policy.checkTarget owner target = .ok () ∧ target.Unbroken)
    ⟨fun h => ⟨h.1, h.2⟩, fun h => ⟨h.checked, h.unbroken⟩⟩

/-- Each length fits its family. -/
structure Lengths.WellFormed (l : Lengths) : Prop where
  v4_le : ∀ n ∈ l.v4, n ≤ Network.width4
  v6_le : ∀ n ∈ l.v6, n ≤ Network.width6

instance (l : Lengths) : Decidable l.WellFormed :=
  decidable_of_iff ((∀ n ∈ l.v4, n ≤ Network.width4) ∧ ∀ n ∈ l.v6, n ≤ Network.width6)
    ⟨fun h => ⟨h.1, h.2⟩, fun h => ⟨h.v4_le, h.v6_le⟩⟩

/-- The targets of the mechanism are checked, and its lengths fit. -/
def Mechanism.WellFormed (m : Mechanism) : Prop :=
  match m with
  | all => True
  | includes target | existing target => Policy.IsTarget m.kind.word target
  | a target lengths | mx target lengths => (∀ t ∈ target, Policy.IsTarget m.kind.word t) ∧ lengths.WellFormed
  | ptr target => ∀ t ∈ target, Policy.IsTarget m.kind.word t
  | ip4 _ length => ∀ n ∈ length, n ≤ Network.width4
  | ip6 _ length => ∀ n ∈ length, n ≤ Network.width6

instance (m : Mechanism) : Decidable m.WellFormed :=
  match m with
  | .all => inferInstanceAs (Decidable True)
  | .includes target => inferInstanceAs (Decidable (Policy.IsTarget MechanismKind.includes.word target))
  | .existing target => inferInstanceAs (Decidable (Policy.IsTarget MechanismKind.existing.word target))
  | .a target lengths =>
    inferInstanceAs (Decidable ((∀ t ∈ target, Policy.IsTarget MechanismKind.a.word t) ∧ lengths.WellFormed))
  | .mx target lengths =>
    inferInstanceAs (Decidable ((∀ t ∈ target, Policy.IsTarget MechanismKind.mx.word t) ∧ lengths.WellFormed))
  | .ptr target => inferInstanceAs (Decidable (∀ t ∈ target, Policy.IsTarget MechanismKind.ptr.word t))
  | .ip4 _ length => inferInstanceAs (Decidable (∀ n ∈ length, n ≤ Network.width4))
  | .ip6 _ length => inferInstanceAs (Decidable (∀ n ∈ length, n ≤ Network.width6))

/-- A name and a value of a modifier that neither redirects nor explains. -/
structure Policy.IsUnknown (name value : Text) : Prop where
  isName : isModifierName name = true
  ne_redirect : Text.sameLetters name "redirect".toList = false
  ne_explanation : Text.sameLetters name "exp".toList = false
  checked : Template.check .explanation value = .ok ()
  unbroken : value.Unbroken

instance (name value : Text) : Decidable (Policy.IsUnknown name value) :=
  decidable_of_iff
    (Policy.isModifierName name = true ∧ Text.sameLetters name "redirect".toList = false ∧
      Text.sameLetters name "exp".toList = false ∧ Template.check .explanation value = .ok () ∧ value.Unbroken)
    ⟨fun ⟨h₁, h₂, h₃, h₄, h₅⟩ => ⟨h₁, h₂, h₃, h₄, h₅⟩, fun ⟨h₁, h₂, h₃, h₄, h₅⟩ => ⟨h₁, h₂, h₃, h₄, h₅⟩⟩

/-- The target of the modifier is checked, or its name and value are those of an unknown modifier. -/
def Modifier.WellFormed (m : Modifier) : Prop :=
  match m with
  | redirect target | explanation target => Policy.IsTarget m.name target
  | unknown name value => Policy.IsUnknown name value

instance (m : Modifier) : Decidable m.WellFormed :=
  match m with
  | .redirect target => inferInstanceAs (Decidable (Policy.IsTarget "redirect".toList target))
  | .explanation target => inferInstanceAs (Decidable (Policy.IsTarget "exp".toList target))
  | .unknown name value => inferInstanceAs (Decidable (Policy.IsUnknown name value))

namespace Term

/-- The mechanism of the directive, or the modifier, is well formed. -/
def WellFormed : Term → Prop
  | directive d => d.mechanism.WellFormed
  | modifier m => m.WellFormed

instance (t : Term) : Decidable t.WellFormed :=
  match t with
  | .directive d => inferInstanceAs (Decidable d.mechanism.WellFormed)
  | .modifier m => inferInstanceAs (Decidable m.WellFormed)

def isRedirect : Term → Bool
  | modifier (.redirect _) => true
  | _ => false

def isExplanation : Term → Bool
  | modifier (.explanation _) => true
  | _ => false

end Term

/-- Each term is well formed, and the policy redirects and explains at most once. -/
structure Policy.WellFormed (p : Policy) : Prop where
  terms : ∀ t ∈ p.terms, t.WellFormed
  redirects_le : p.terms.countP Term.isRedirect ≤ 1
  explanations_le : p.terms.countP Term.isExplanation ≤ 1

instance (p : Policy) : Decidable p.WellFormed :=
  decidable_of_iff ((∀ t ∈ p.terms, t.WellFormed) ∧ p.terms.countP Term.isRedirect ≤ 1 ∧
      p.terms.countP Term.isExplanation ≤ 1)
    ⟨fun h => ⟨h.1, h.2.1, h.2.2⟩, fun h => ⟨h.terms, h.redirects_le, h.explanations_le⟩⟩

-- Data may hold a length of any byte, also one that does not fit.
example : ¬ Policy.WellFormed ⟨[.directive ⟨.pass, .ip4 ⟨0⟩ (some 33)⟩]⟩ := by decide

end SenderPolicy
