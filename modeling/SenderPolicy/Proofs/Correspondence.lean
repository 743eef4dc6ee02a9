import Mathlib.Tactic.Lemma
import SenderPolicy.Proofs.Course

/-!
# Two evaluations side by side

A `Correspondence` says how the sessions of two engines stand to each other: while both evaluations go on
(`together`), and after the first one has failed where the second goes on (`parted`). Two checks match if they lead
sessions that go together either to equal ends in such sessions, or apart; and a second check that goes on keeps
them apart. Matching checks compose (`Matches.bind`), and so do matching probes, which cannot fail.

Where the evaluations have the same budget and never part (`Correspondence.Inseparable`), all that they enter, charge
and count matches.
-/

namespace SenderPolicy

variable {σ τ α β γ δ : Type}

/-- How sessions of two evaluations stand to each other. -/
structure Correspondence (σ τ : Type) where
  together : Session σ → Session τ → Prop
  /-- The first evaluation has failed, and the second goes on. -/
  parted : Failure → Session σ → Session τ → Prop

/-- Ends of two checks: equal failures or related values in sessions that go together, or a failure of the first
alone. -/
inductive Matched (C : Correspondence σ τ) (V : α → β → Prop) :
    Except Failure α × Session σ → Except Failure β × Session τ → Prop where
  | ok {a b s₁ s₂} : V a b → C.together s₁ s₂ → Matched C V (.ok a, s₁) (.ok b, s₂)
  | error {f s₁ s₂} : C.together s₁ s₂ → Matched C V (.error f, s₁) (.error f, s₂)
  | parted {f y s₁ s₂} : C.parted f s₁ s₂ → Matched C V (.error f, s₁) (y, s₂)

/-- Two checks that lead sessions which go together to matching ends. -/
structure Check.Matches (C : Correspondence σ τ) (V : α → β → Prop) (c₁ : Check σ α) (c₂ : Check τ β) :
    Prop where
  together : ∀ {s₁ s₂}, C.together s₁ s₂ → Matched C V (c₁.runFrom s₁) (c₂.runFrom s₂)
  parted : ∀ {f s₁ s₂}, C.parted f s₁ s₂ → C.parted f s₁ (c₂.runFrom s₂).2

/-- Two probes with related answers that lead sessions which go together to such sessions. -/
structure Probe.Matches (C : Correspondence σ τ) (V : α → β → Prop) (p₁ : Probe σ α) (p₂ : Probe τ β) :
    Prop where
  value : ∀ {s₁ s₂}, C.together s₁ s₂ → V (p₁.runFrom s₁).1 (p₂.runFrom s₂).1
  together : ∀ {s₁ s₂}, C.together s₁ s₂ → C.together (p₁.runFrom s₁).2 (p₂.runFrom s₂).2
  parted : ∀ {f s₁ s₂}, C.parted f s₁ s₂ → C.parted f s₁ (p₂.runFrom s₂).2

variable {C : Correspondence σ τ} {V : α → β → Prop} {W : γ → δ → Prop}

/-- Ends that match stay so under a weaker relation between their values. -/
lemma Matched.mono {V' : α → β → Prop} {x : Except Failure α × Session σ} {y : Except Failure β × Session τ}
    (h : Matched C V x y) (hV : ∀ {a b}, V a b → V' a b) : Matched C V' x y := by
  cases h with
  | ok hab hs => exact .ok (hV hab) hs
  | error hs => exact .error hs
  | parted hs => exact .parted hs

namespace Probe.Matches

/-- Probes that answer with related values match. -/
lemma pure {a : α} {b : β} (h : V a b) :
    Probe.Matches C V (Pure.pure a : Probe σ α) (Pure.pure b : Probe τ β) :=
  ⟨fun _ => h, id, id⟩

/-- Matching probes in a row match. As for checks, every answer of the second probe is related to one of the first. -/
lemma bindRel {p₁ : Probe σ α} {p₂ : Probe τ β} {k₁ : α → Probe σ γ} {k₂ : β → Probe τ δ}
    (hp : Probe.Matches C V p₁ p₂) (hV : ∀ b, ∃ a, V a b)
    (hk : ∀ {a b}, V a b → Probe.Matches C W (k₁ a) (k₂ b)) :
    Probe.Matches C W (p₁ >>= k₁) (p₂ >>= k₂) := by
  refine ⟨fun h => ?_, fun h => ?_, fun {f s₁ s₂} h => ?_⟩
  · exact (hk (hp.value h)).value (hp.together h)
  · exact (hk (hp.value h)).together (hp.together h)
  · obtain ⟨a, hab⟩ := hV (p₂.runFrom s₂).1
    exact (hk hab).parted (hp.parted h)

/-- Matching probes with equal answers may be followed by probes that match for each answer. -/
lemma bind {p₁ : Probe σ α} {p₂ : Probe τ α} {k₁ : α → Probe σ γ} {k₂ : α → Probe τ δ}
    (hp : Probe.Matches C Eq p₁ p₂) (hk : ∀ a, Probe.Matches C W (k₁ a) (k₂ a)) :
    Probe.Matches C W (p₁ >>= k₁) (p₂ >>= k₂) :=
  hp.bindRel (fun a => ⟨a, rfl⟩) fun {a _} hab => hab ▸ hk a

/-- Probes that match do so under a weaker relation between their answers. -/
lemma mono {V' : α → β → Prop} {p₁ : Probe σ α} {p₂ : Probe τ β} (hp : Probe.Matches C V p₁ p₂)
    (hV : ∀ {a b}, V a b → V' a b) : Probe.Matches C V' p₁ p₂ :=
  ⟨fun h => hV (hp.value h), hp.together, hp.parted⟩

/-- Filters match if their tests do, whatever they have kept so far. -/
lemma filterAuxM {p₁ : α → Probe σ Bool} {p₂ : α → Probe τ Bool}
    (hp : ∀ a, Probe.Matches C Eq (p₁ a) (p₂ a)) (l kept : List α) :
    Probe.Matches C Eq (l.filterAuxM p₁ kept) (l.filterAuxM p₂ kept) := by
  induction l generalizing kept with
  | nil => exact .pure rfl
  | cons a l ih => exact (hp a).bind fun _ => ih _

/-- Filters match if their tests do. -/
lemma filterM {p₁ : α → Probe σ Bool} {p₂ : α → Probe τ Bool}
    (hp : ∀ a, Probe.Matches C Eq (p₁ a) (p₂ a)) (l : List α) :
    Probe.Matches C Eq (l.filterM p₁) (l.filterM p₂) :=
  (filterAuxM hp l []).bind fun _ => .pure rfl

end Probe.Matches

namespace Check.Matches

/-- Checks that answer with related values match. -/
lemma pure {a : α} {b : β} (h : V a b) :
    Check.Matches C V (Pure.pure a : Check σ α) (Pure.pure b : Check τ β) :=
  ⟨fun hs => .ok h hs, id⟩

/-- Checks that fail for the same reason match. -/
lemma throw (f : Failure) :
    Check.Matches C V (MonadExcept.throw f : Check σ α) (MonadExcept.throw f : Check τ β) :=
  ⟨fun hs => .error hs, id⟩

/-- Matching probes are matching checks. -/
lemma lift {p₁ : Probe σ α} {p₂ : Probe τ β} (hp : Probe.Matches C V p₁ p₂) :
    Check.Matches C V (liftM p₁) (liftM p₂) :=
  ⟨fun hs => .ok (hp.value hs) (hp.together hs), hp.parted⟩

/-- Checks that match do so under a weaker relation between their values. -/
lemma mono {V' : α → β → Prop} {c₁ : Check σ α} {c₂ : Check τ β} (hc : Check.Matches C V c₁ c₂)
    (hV : ∀ {a b}, V a b → V' a b) : Check.Matches C V' c₁ c₂ :=
  ⟨fun h => (hc.together h).mono hV, hc.parted⟩

/-- Matching checks in a row match. Every value of the second check is related to one of the first, so that what
follows is known also where the first has failed. -/
lemma bindRel {c₁ : Check σ α} {c₂ : Check τ β} {k₁ : α → Check σ γ} {k₂ : β → Check τ δ}
    (hc : Check.Matches C V c₁ c₂) (hV : ∀ b, ∃ a, V a b)
    (hk : ∀ {a b}, V a b → Check.Matches C W (k₁ a) (k₂ b)) :
    Check.Matches C W (c₁ >>= k₁) (c₂ >>= k₂) := by
  -- a second check that goes on alone stays apart, whether its first part fails or not
  have hparted : ∀ {f s₁ s₂}, C.parted f s₁ (c₂.runFrom s₂).2 → C.parted f s₁ ((c₂ >>= k₂).runFrom s₂).2 := by
    intro f s₁ s₂ h
    rcases hrun : c₂.runFrom s₂ with ⟨y, s₂'⟩
    rw [hrun] at h
    cases y with
    | error g => rwa [Check.runFrom_bind_error hrun]
    | ok b =>
      obtain ⟨a, hab⟩ := hV b
      rw [Check.runFrom_bind_ok hrun]
      exact (hk hab).parted h
  refine ⟨fun {s₁ s₂} h => ?_, fun h => hparted (hc.parted h)⟩
  have hends := hc.together h
  rcases hrun₁ : c₁.runFrom s₁ with ⟨x, s₁'⟩
  rcases hrun₂ : c₂.runFrom s₂ with ⟨y, s₂'⟩
  rw [hrun₁, hrun₂] at hends
  cases hends with
  | ok hab hs =>
    rw [Check.runFrom_bind_ok hrun₁, Check.runFrom_bind_ok hrun₂]
    exact (hk hab).together hs
  | error hs =>
    rw [Check.runFrom_bind_error hrun₁, Check.runFrom_bind_error hrun₂]
    exact .error hs
  | parted hs =>
    rw [Check.runFrom_bind_error hrun₁]
    rw [show s₂' = (c₂.runFrom s₂).2 by rw [hrun₂]] at hs
    exact .parted (hparted hs)

/-- Matching checks with equal values may be followed by checks that match for each value. -/
lemma bind {c₁ : Check σ α} {c₂ : Check τ α} {k₁ : α → Check σ γ} {k₂ : α → Check τ δ}
    (hc : Check.Matches C Eq c₁ c₂) (hk : ∀ a, Check.Matches C W (k₁ a) (k₂ a)) :
    Check.Matches C W (c₁ >>= k₁) (c₂ >>= k₂) :=
  hc.bindRel (fun a => ⟨a, rfl⟩) fun {a _} hab => hab ▸ hk a

/-- A guard that does not look at the session is passed in both or in neither. -/
lemma guard {p : Prop} [Decidable p] (f : Failure) :
    Check.Matches C Eq (if p then MonadExcept.throw f else Pure.pure () : Check σ Unit)
      (if p then MonadExcept.throw f else Pure.pure () : Check τ Unit) := by
  split
  · exact .throw f
  · exact .pure rfl

end Check.Matches

/-! ## Evaluations that never part -/

/-- Sessions that go together have the same budget and never part, and what happens to both keeps them together unless
it is a query. -/
structure Correspondence.Inseparable (C : Correspondence σ τ) (R₁ : Resolver σ) (R₂ : Resolver τ) : Prop where
  budget_eq : ∀ {s₁ s₂}, C.together s₁ s₂ → s₁.budget = s₂.budget
  together_after : ∀ {s₁ s₂}, C.together s₁ s₂ → ∀ e : Event, e.query? = none →
    C.together (s₁.after R₁ e) (s₂.after R₂ e)
  not_parted : ∀ {f s₁ s₂}, ¬C.parted f s₁ s₂

namespace Correspondence.Inseparable

variable {R₁ : Resolver σ} {R₂ : Resolver τ} (hC : C.Inseparable R₁ R₂)

include hC

/-- Where sessions never part, only those that go together have to be looked at. -/
lemma matches_of_together {c₁ : Check σ α} {c₂ : Check τ β}
    (hc : ∀ {s₁ s₂}, C.together s₁ s₂ → Matched C V (c₁.runFrom s₁) (c₂.runFrom s₂)) : Check.Matches C V c₁ c₂ :=
  ⟨hc, fun h => absurd h hC.not_parted⟩

/-- Entering a level keeps both sessions together. -/
lemma matches_enter (domain : Text) (depth : Nat) :
    Check.Matches C Eq (Check.enter domain depth) (Check.enter domain depth) :=
  hC.matches_of_together fun h => .ok rfl (hC.together_after h (.entered domain depth) rfl)

/-- With the same budget a lookup is charged in both or refused in both. -/
lemma matches_charge : Check.Matches C Eq Check.charge Check.charge := by
  refine hC.matches_of_together fun {s₁ s₂} h => ?_
  have hafter := hC.together_after h .charged rfl
  rw [Session.runFrom_charge R₁, Session.runFrom_charge R₂, hC.budget_eq h]
  split
  · exact .ok rfl hafter
  · exact .error h

/-- With the same budget an empty answer is counted in both, and exceeds the limit in both or in neither. -/
lemma matches_recordVoid : Check.Matches C Eq Check.recordVoid Check.recordVoid := by
  refine hC.matches_of_together fun {s₁ s₂} h => ?_
  have hafter := hC.together_after h .void rfl
  rw [Session.runFrom_recordVoid R₁, Session.runFrom_recordVoid R₂, hC.budget_eq h]
  split
  · exact .ok rfl hafter
  · exact .error hafter

/-- No lookup is left in the one exactly if none is left in the other. -/
lemma matches_exhausted :
    Check.Matches C V (do throw (.lookupLimit (← get).budget.maxLookups))
      (do throw (.lookupLimit (← get).budget.maxLookups)) := by
  refine hC.matches_of_together fun {s₁ s₂} h => ?_
  rw [Check.runFrom_get_bind, Check.runFrom_get_bind, hC.budget_eq h]
  exact .error h

end Correspondence.Inseparable

/-- Sessions with the same budget, whatever else tells them apart. -/
def Correspondence.sameBudget (σ τ : Type) : Correspondence σ τ where
  together s₁ s₂ := s₁.budget = s₂.budget
  parted _ _ _ := False

/-- Sessions with the same budget keep it the same, whatever their resolvers answer. -/
lemma Correspondence.inseparable_sameBudget (R₁ : Resolver σ) (R₂ : Resolver τ) :
    (sameBudget σ τ).Inseparable R₁ R₂ where
  budget_eq h := h
  not_parted h := h
  together_after := by
    intro s₁ s₂ h e he
    cases e with
    | asked q => cases he
    | entered domain depth => exact h
    | charged => exact congrArg (fun b : Budget => { b with lookups := b.lookups + 1 }) h
    | void => exact congrArg Budget.recordVoid h

end SenderPolicy
