import SenderPolicy.Proofs.Agreement
import SenderPolicy.Proofs.Spending

/-!
# Levels without a bound

An evaluation is recursion on the lookups that remain, because each nested level follows a charge. The bound is never
met: an evaluation is one level in which every nested level is an evaluation again (`evaluate_eq`), whatever is
published where.
-/

namespace SenderPolicy

variable {σ α β : Type}

namespace Check

/-- Two checks that do the same in every session in which at most so many lookups remain. -/
def SameBelow (k : Nat) (c₁ c₂ : Check σ α) : Prop :=
  ∀ s, s.budget.remaining ≤ k → c₁.runFrom s = c₂.runFrom s

variable {k : Nat} {c₁ c₂ : Check σ α} {f₁ f₂ : α → Check σ β}

/-- A check does the same as itself. -/
lemma SameBelow.refl (c : Check σ α) : SameBelow k c c :=
  fun _ _ => rfl

/-- After a first part that leaves no more lookups than before, the second parts need to be the same. -/
lemma SameBelow.bind (hc : SameBelow k c₁ c₂)
    (hspend : ∀ s, (c₁.runFrom s).2.budget.remaining ≤ s.budget.remaining)
    (hf : ∀ a, SameBelow k (f₁ a) (f₂ a)) : SameBelow k (c₁ >>= f₁) (c₂ >>= f₂) := by
  intro s hs
  rcases hrun₁ : c₁.runFrom s with ⟨x, s'⟩
  have hrun₂ : c₂.runFrom s = (x, s') := by rw [← hc s hs, hrun₁]
  cases x with
  | error e => rw [runFrom_bind_error hrun₁, runFrom_bind_error hrun₂]
  | ok a =>
    have hs' := hspend s
    rw [hrun₁] at hs'
    rw [runFrom_bind_ok hrun₁, runFrom_bind_ok hrun₂]
    exact hf a s' (hs'.trans hs)

/-- The first parts of checks may be replaced if what follows is one and the same. -/
lemma SameBelow.bind_left {f : α → Check σ β} (hc : SameBelow k c₁ c₂) : SameBelow k (c₁ >>= f) (c₂ >>= f) := by
  intro s hs
  rw [runFrom_bind, runFrom_bind, hc s hs]

/-- After a charge fewer lookups remain. -/
lemma SameBelow.charge_bind (R : Resolver σ) {f₁ f₂ : Unit → Check σ β}
    (hf : ∀ j, j < k → SameBelow j (f₁ ()) (f₂ ())) :
    SameBelow k (Check.charge >>= f₁) (Check.charge >>= f₂) := by
  intro s hs
  have hrun := Session.runFrom_charge R s
  by_cases hleft : s.budget.lookups < s.budget.maxLookups
  · rw [if_pos hleft] at hrun
    rw [runFrom_bind_ok hrun, runFrom_bind_ok hrun]
    have hcharge : s.budget.charge? = some (Session.after R .charged s).budget := if_pos hleft
    have hremaining := Budget.remaining_of_charge? hcharge
    exact hf (Session.after R .charged s).budget.remaining (by omega) _ (Nat.le_refl _)
  · rw [if_neg hleft] at hrun
    rw [runFrom_bind_error hrun, runFrom_bind_error hrun]

end Check

namespace Engine

variable {E : Engine σ} {k depth q v : Nat} {explainer : Explainer σ} {n₁ n₂ : Request → Check σ Evaluation}

/-- What gets by on an allowance leaves no more lookups than before. -/
lemma Affords.remaining_le {c : Check σ α} (hc : E.Affords depth q v c) (s : Session σ) :
    (c.runFrom s).2.budget.remaining ≤ s.budget.remaining := by
  obtain ⟨t, ht⟩ := hc s
  rw [ht.replays, Budget.remaining, Budget.remaining, Session.lookups_replay, (s.limits_replay _ t).1]
  omega

/-- Expanding a target leaves no more lookups than before. -/
lemma targetDomain_remaining_le (r : Request) (target : Text) (s : Session σ) :
    ((E.targetDomain r target).runFrom s).2.budget.remaining ≤ s.budget.remaining := by
  have haffords : E.Affords 0 _ 0 (E.targetDomain r target) := targetDomain_affords r target
  exact haffords.remaining_le s

/-! ## Levels that differ in what they nest -/

open Check (SameBelow)

/-- What is nested is evaluated after a charge, so it needs to be the same only where fewer lookups remain. -/
lemma matchesClient_same (hn : ∀ j, j < k → ∀ r, SameBelow j (n₁ r) (n₂ r)) (r : Request) (m : Mechanism) :
    SameBelow k (E.matchesClient n₁ r m) (E.matchesClient n₂ r m) := by
  cases m with
  | includes target =>
    refine .charge_bind E.resolver fun j hj => ?_
    refine (SameBelow.refl _).bind (targetDomain_remaining_le r target) fun domain => ?_
    exact (hn j hj (r.descend domain)).bind_left
  | all => exact .refl _
  | a target lengths => exact .refl _
  | mx target lengths => exact .refl _
  | ptr target => exact .refl _
  | ip4 network length => exact .refl _
  | ip6 network length => exact .refl _
  | existing target => exact .refl _

/-- What is handed over to is evaluated after a charge, so fewer lookups remain for it. -/
lemma redirected_same (hn : ∀ j, j < k → ∀ r, SameBelow j (n₁ r) (n₂ r)) (r : Request) (target : Text) :
    SameBelow k (E.redirected n₁ r target) (E.redirected n₂ r target) := by
  refine .charge_bind E.resolver fun j hj => ?_
  refine (SameBelow.refl _).bind (targetDomain_remaining_le r target) fun domain => ?_
  exact (hn j hj (r.descend domain)).bind_left

section

variable (haffords : ∀ r, E.Affords r.depth E.levelCost 0 (n₁ r))
  (hn : ∀ j, j < k → ∀ r, SameBelow j (n₁ r) (n₂ r))

include haffords hn

/-- Directives that are tried in a row leave ever fewer lookups, and each of them does the same. -/
lemma firstMatch_same (r : Request) (ds : List Directive) :
    SameBelow k (E.firstMatch n₁ r ds) (E.firstMatch n₂ r ds) := by
  have hnested : E.NestedAffords (r.depth + 1) n₁ := fun r' hr' => hr' ▸ haffords r'
  induction ds with
  | nil => exact .refl _
  | cons d ds ih =>
    refine (matchesClient_same hn r d.mechanism).bind
      (matchesClient_affords hnested rfl d.mechanism).remaining_le fun found => ?_
    split
    · exact .refl _
    · exact ih

/-- A decision does the same if what is nested does where fewer lookups remain. -/
lemma decide_same (r : Request) (p : Policy) :
    SameBelow k (E.decide explainer n₁ r p) (E.decide explainer n₂ r p) := by
  have hnested : E.NestedAffords (r.depth + 1) n₁ := fun r' hr' => hr' ▸ haffords r'
  refine (firstMatch_same haffords hn r p.directives).bind
    (firstMatch_affords hnested rfl p.directives).remaining_le fun found => ?_
  split
  · exact .refl _
  · split
    · exact redirected_same hn r _
    · exact .refl _

/-- A level does the same if what is nested in it does where fewer lookups remain. -/
lemma level_same (r : Request) : SameBelow k (E.level explainer n₁ r) (E.level explainer n₂ r) := by
  rw [level_eq, level_eq]
  refine (SameBelow.refl _).bind (fun s => Nat.le_refl _) fun _ => ?_
  refine (SameBelow.refl _).bind (fun s => ?_) fun _ => ?_
  · rw [admitDepth]
    split
    · exact Nat.le_refl _
    · exact Nat.le_refl _
  · rw [admitted, admitted]
    split
    · exact .refl _
    · have hpolicy : E.Affords 0 1 0 (E.policyAt r.domain) := policyAt_affords r.domain
      refine (SameBelow.refl _).bind hpolicy.remaining_le fun policy => ?_
      cases policy with
      | none => exact .refl _
      | some p => exact decide_same haffords hn r p

end

/-! ## The bound -/

section

variable (hexplainer : ∀ p r, E.Asks (2 * E.options.maxPtrNames + 3) (explainer p r))

include hexplainer

/-- One level more changes nothing where no more lookups remain than there are levels. By induction on the levels. -/
lemma nest_same_succ (n : Nat) (r : Request) :
    SameBelow n (E.nest explainer n r) (E.nest explainer (n + 1) r) := by
  induction n generalizing r with
  | zero => exact level_same (fun _ => exhausted_affords) (fun j hj => absurd hj (Nat.not_lt_zero j)) r
  | succ n ih =>
    refine level_same (nest_affords hexplainer n) (fun j hj r' s hs => ?_) r
    exact ih r' s (by omega)

/-- More levels than lookups remain for change nothing. -/
lemma nest_same {n m : Nat} (hnm : n ≤ m) (r : Request) :
    SameBelow n (E.nest explainer n r) (E.nest explainer m r) := by
  induction m, hnm using Nat.le_induction with
  | base => exact .refl _
  | succ m hnm ih =>
    intro s hs
    rw [ih s hs]
    exact nest_same_succ hexplainer m r s (hs.trans hnm)

/-- An evaluation is one level in which every nested level is an evaluation. -/
theorem evaluateWith_eq (r : Request) :
    E.evaluateWith explainer r = E.level explainer (E.evaluateWith explainer) r := by
  funext s
  show (E.nest explainer s.budget.remaining r).runFrom s = _
  rw [nest_same_succ hexplainer s.budget.remaining r s (Nat.le_refl _)]
  -- a nested level starts with fewer lookups, so it never needs the bound of this one
  refine level_same (nest_affords hexplainer s.budget.remaining) (fun j hj r' s' hs' => ?_) r s (Nat.le_refl _)
  exact (nest_same hexplainer (by omega) r' s' (Nat.le_refl _)).symm

end

/-- The evaluation of a request is one level in which inclusions and redirections are evaluated likewise. -/
theorem evaluate_eq (E : Engine σ) (r : Request) : E.evaluate r = E.level E.explain E.evaluate r :=
  evaluateWith_eq explain_asks r

end Engine

end SenderPolicy
