import SenderPolicy.Proofs.Leniency
import SenderPolicy.Proofs.Limits
import SenderPolicy.Proofs.Nesting

/-!
# Unfolding an evaluation

An evaluation is defined by what it evaluates in turn, with no bound in sight: the domains that policies name may form
cycles, and a resolver may answer differently each time. `levels` unfolds this recursion so many times and leaves open
what stands below. Once there is a level more than lookups remain, nothing below is reached any more
(`evaluate_levels`): each level is entered after a charge, and no charge is taken back.
-/

namespace SenderPolicy

variable {σ : Type}

/-- The session with its limit of lookups raised to those already charged, if these are more. -/
def Session.covered (s : Session σ) : Session σ :=
  { s with budget := { s.budget with maxLookups := max s.budget.lookups s.budget.maxLookups } }

/-- As many lookups remain when those already charged are covered. -/
lemma Session.remaining_covered (s : Session σ) : s.covered.budget.remaining = s.budget.remaining := by
  show max s.budget.lookups s.budget.maxLookups - s.budget.lookups = s.budget.maxLookups - s.budget.lookups
  omega

namespace Engine

variable {E : Engine σ} {deeper : Request → Check σ Evaluation}

/-- The evaluation unfolded so many times. The levels below them are evaluated in any way whatever. -/
def levels (E : Engine σ) (deeper : Request → Check σ Evaluation) : Nat → Request → Check σ Evaluation
  | 0 => deeper
  | n + 1 => E.level E.explain (levels E deeper n)

open Check (SameBelow)

/-- Where no more lookups remain than levels may nest, one level more makes up for anything below. By induction on the
levels. -/
lemma nest_same_levels {n m : Nat} (hnm : n < m) (r : Request) :
    SameBelow n (E.nest E.explain n r) (E.levels deeper m r) := by
  induction n generalizing m r with
  | zero =>
    obtain ⟨m, rfl⟩ := Nat.exists_eq_add_of_lt hnm
    exact level_same (fun _ => exhausted_affords) (fun j hj => absurd hj (Nat.not_lt_zero j)) r
  | succ n ih =>
    obtain ⟨m, rfl⟩ := Nat.exists_eq_add_of_lt hnm
    refine level_same (nest_affords explain_asks n) (fun j hj r' s hs => ?_) r
    exact ih (by omega) r' s (by omega)

/-! ## Depth -/

/-- An evaluation that starts with more lookups charged than allowed goes no further than if they were covered. -/
lemma journal_evaluate_covered (r : Request) (s : Session σ) :
    ((E.evaluate r).runFrom s).2.journal <:+ ((E.evaluate r).runFrom s.covered).2.journal := by
  have ho : E.options.RelaxedTo E.options :=
    ⟨Nat.le_refl _, Nat.le_refl _, Nat.le_refl _, Nat.le_refl _, rfl⟩
  have htogether : (leniency σ).together s s.covered :=
    ⟨rfl, rfl, rfl, rfl, Nat.le_max_right _ _, Nat.le_refl _⟩
  have hends : Matched (leniency σ) (Alike Eq) ((E.evaluate r).runFrom s) ((E.evaluate r).runFrom s.covered) :=
    (nest_relaxed ho s.remaining_covered.ge r).together htogether
  rcases hrun : (E.evaluate r).runFrom s with ⟨x, s₁⟩
  rcases hrun' : (E.evaluate r).runFrom s.covered with ⟨x', s₂⟩
  rw [hrun, hrun'] at hends
  cases hends with
  | ok _ h => exact h.2.1 ▸ List.suffix_rfl
  | error h => exact h.2.1 ▸ List.suffix_rfl
  | parted h => exact h.2

/-- No level is further below the first than lookups remained. -/
lemma depth_le_of_entered {r : Request} {s : Session σ} {t : List Event}
    (ht : ((E.evaluate r).runFrom s).2 = s.replay E.resolver t) {domain : Text} {n : Nat}
    (hn : .entered domain n ∈ t) : n ≤ r.depth + s.budget.remaining := by
  have hsuffix := journal_evaluate_covered (E := E) r s
  obtain ⟨u, hu⟩ := evaluate_affords (E := E) r s.covered
  rw [ht, hu.replays, Session.journal_replay, Session.journal_replay] at hsuffix
  have hsubset : t <:+ u := by
    obtain ⟨v, hv⟩ := hsuffix
    rw [← List.append_assoc] at hv
    exact ⟨v, List.append_cancel_right hv⟩
  obtain ⟨hle, d, v, hd, -, -, hlevel⟩ := hu.inBounds (Nat.le_max_left _ _) List.suffix_rfl
  have hdepth := hlevel domain n (hsubset.subset hn)
  rw [(s.covered.limits_replay E.resolver u).1] at hle
  have hremaining := s.remaining_covered
  rw [Budget.remaining] at hremaining
  omega

/-- An evaluation is a level in which every level is an evaluation. Unfolded into one level more than lookups remain,
it is the same whatever stands below: it needs no further level, whatever is published and however answers change. And
no level is entered with more levels around it than that. -/
theorem evaluate_levels (E : Engine σ) (r : Request) (s : Session σ) :
    E.evaluate r = E.level E.explain E.evaluate r ∧
      (∀ deeper k, (E.levels deeper (s.budget.remaining + 1 + k) r).runFrom s = (E.evaluate r).runFrom s) ∧
      ∃ t, ((E.evaluate r).runFrom s).2 = s.replay E.resolver t ∧
        ∀ domain n, .entered domain n ∈ t → n + 1 - r.depth ≤ s.budget.remaining + 1 := by
  obtain ⟨t, ht⟩ := evaluate_affords (E := E) r s
  refine ⟨evaluate_eq E r, fun deeper k => ?_, t, ht.replays, fun domain n hn => ?_⟩
  · exact (nest_same_levels (by omega) r s (Nat.le_refl _)).symm
  · have := depth_le_of_entered ht.replays hn
    omega

/-- An engine with no limit of depth, for which two domains include each other and hand over to each other in turn. -/
def alternating : Engine Nat where
  resolver :=
    { ask := fun q turn =>
        match q with
        | .txt name =>
          let other := if name = "a.example".toList then "b.example".toList else "a.example".toList
          let term := if turn % 2 = 0 then "include:".toList else "redirect=".toList
          (.ok ["v=spf1 ".toList ++ term ++ other], turn + 1)
        | _ => (.error .noSuchDomain, turn) }
  options := { maxDepth := Text.maxWord }
  now := 0

/-- Two domains that refer to each other without end are evaluated to the limit of lookups, in eleven levels. -/
theorem evaluate_levels_alternating :
    let r : Request := ⟨"u@a.example".toList, "a.example".toList, .v4 ⟨1⟩, "a.example".toList, 0⟩
    let s : Session Nat := .start (.fresh 10 2) 0
    ((alternating.evaluate r).runFrom s).1 = .error (.lookupLimit 10) ∧
      (∀ deeper, (alternating.levels deeper 11 r).runFrom s = (alternating.evaluate r).runFrom s) ∧
      ∃ t, ((alternating.evaluate r).runFrom s).2 = s.replay alternating.resolver t ∧
        .entered "a.example".toList 10 ∈ t ∧ ∀ domain n, .entered domain n ∈ t → n + 1 ≤ 11 := by
  intro r s
  obtain ⟨-, hlevels, t, ht, hdepth⟩ := evaluate_levels alternating r s
  refine ⟨by decide +kernel, fun deeper => hlevels deeper 0, t, ht, ?_, hdepth⟩
  have hjournal : .entered "a.example".toList 10 ∈ ((alternating.evaluate r).runFrom s).2.journal := by
    decide +kernel
  rw [ht, Session.journal_replay] at hjournal
  exact (List.mem_append.mp hjournal).resolve_right List.not_mem_nil

end Engine

end SenderPolicy
