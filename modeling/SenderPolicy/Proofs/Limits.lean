import SenderPolicy.Proofs.Spending

/-!
# Counters, depth and queries

What the limits of a check bound, for every resolver. At every point of an evaluation the empty answers and the
depth have grown by no more than the lookups charged (`evaluate_counters`), so a fresh check meets the limits of
depth and of empty answers only where they are below that of lookups. And the queries sent are at most so many for
each lookup charged, and for one more (`evaluate_queries_le`): nothing that a domain publishes makes them grow
further.

The queries counted are those that reach the resolver (`evaluate_log`).
-/

namespace SenderPolicy

variable {σ : Type}

/-- How a session `m` that an evaluation passes through, `t` being the events since its start in `s`, stands to
that start. -/
structure InBounds (depth : Nat) (s m : Session σ) (t : List Event) : Prop where
  lookups_le : m.budget.lookups ≤ m.budget.maxLookups
  /-- `d` lookups were charged since the start and at most as many empty answers counted, and every level entered
  so far, the one that is being evaluated among them, is at most `d` below the first. -/
  grown : ∃ d v, m.budget.lookups = s.budget.lookups + d ∧ m.budget.voids = s.budget.voids + v ∧ v ≤ d ∧
    ∀ domain n, .entered domain n ∈ t → n ≤ depth + d

namespace Engine

variable {E : Engine σ} {depth q v : Nat} {α : Type}

/-- Every point of a course that affords no empty answer beyond what it earns is in bounds. -/
lemma Course.inBounds {s s' : Session σ} {t u : List Event} {x : Except Failure α}
    (h : E.Course depth q 0 s t x s') (hs : s.budget.lookups ≤ s.budget.maxLookups) (hu : u <:+ t) :
    InBounds depth s (s.replay E.resolver u) u := by
  obtain ⟨-, hvoids, hdepth⟩ := h.fits hu
  refine ⟨?_, u.count .charged, u.count .void, s.lookups_replay _ u, s.voids_replay _ u, hvoids,
    fun _ _ => hdepth⟩
  -- the lookups only grow, and the check keeps to their limit until its end
  have hend := h.lookups_le hs
  have hcount : u.count .charged ≤ t.count .charged := hu.sublist.count_le _
  rw [h.replays, Session.lookups_replay] at hend
  rw [Session.lookups_replay, (s.limits_replay _ u).1]
  omega

/-- The counters and the depth of an evaluation, at every point of it and at its end. -/
theorem evaluate_counters (E : Engine σ) (r : Request) (s : Session σ)
    (hlookups : s.budget.lookups ≤ s.budget.maxLookups) (hvoids : s.budget.voids ≤ s.budget.maxVoids) :
    ∃ t, ((E.evaluate r).runFrom s).2 = s.replay E.resolver t ∧
      (∀ u, u <:+ t → InBounds r.depth s (s.replay E.resolver u) u) ∧
      ((∃ n, ((E.evaluate r).runFrom s).1 = .error (.voidLimit n)) ↔
        ((E.evaluate r).runFrom s).2.budget.voids = s.budget.maxVoids + 1) ∧
      ((∀ n, ((E.evaluate r).runFrom s).1 ≠ .error (.voidLimit n)) →
        ((E.evaluate r).runFrom s).2.budget.voids ≤ s.budget.maxVoids) ∧
      (r.depth = 0 → s.budget = .fresh E.options.maxLookups E.options.maxVoids →
        (E.options.maxLookups ≤ E.options.maxDepth →
          ∀ n, ((E.evaluate r).runFrom s).1 ≠ .error (.depthLimit n)) ∧
        (E.options.maxLookups ≤ E.options.maxVoids →
          ∀ n, ((E.evaluate r).runFrom s).1 ≠ .error (.voidLimit n)) ∧
        (E.options.maxLookups ≤ Text.maxWord → ∀ u, u <:+ t →
          (s.replay E.resolver u).budget.lookups ≤ Text.maxWord ∧
          (s.replay E.resolver u).budget.voids ≤ Text.maxWord ∧
          ∀ domain n, .entered domain n ∈ u → n ≤ Text.maxWord)) := by
  obtain ⟨t, ht⟩ := evaluate_affords (E := E) r s
  have hpoint := fun u (hu : u <:+ t) => ht.inBounds hlookups hu
  refine ⟨t, ht.replays, hpoint, ⟨fun ⟨n, e⟩ => ht.voids_eq hvoids e, fun h => ?_⟩, ht.voids_le hvoids, ?_⟩
  · by_contra hn
    have := ht.voids_le hvoids fun n e => hn ⟨n, e⟩
    omega
  · intro hdepth hfresh
    -- from a fresh budget all that has grown is at most the limit of lookups
    have hgrown : ∀ u, u <:+ t → (s.replay E.resolver u).budget.lookups ≤ E.options.maxLookups ∧
        (s.replay E.resolver u).budget.voids ≤ E.options.maxLookups ∧
        ∀ domain n, .entered domain n ∈ u → n ≤ E.options.maxLookups := by
      intro u hu
      obtain ⟨hle, d, v, hd, hv, hvd, hlevel⟩ := hpoint u hu
      rw [(s.limits_replay _ u).1] at hle
      simp only [hfresh, Budget.fresh, Nat.zero_add] at hle hd hv
      refine ⟨hle, by omega, fun domain n hn => ?_⟩
      have := hlevel domain n hn
      omega
    refine ⟨fun hmax n e => ?_, fun hmax n e => ?_, fun hmax u hu => ?_⟩
    · obtain ⟨domain, m, hm, hdeep⟩ := ht.tooDeep e
      have := (hgrown t List.suffix_rfl).2.2 domain m hm
      omega
    · have hend := ht.voids_eq hvoids e
      have hle := (hgrown t List.suffix_rfl).2.1
      rw [← ht.replays, hend, hfresh] at hle
      simp only [Budget.fresh] at hle
      omega
    · obtain ⟨h₁, h₂, h₃⟩ := hgrown u hu
      exact ⟨h₁.trans hmax, h₂.trans hmax, fun domain n hn => (h₃ domain n hn).trans hmax⟩

/-- An engine for which every domain hands the decision over to one and the same domain. -/
def endless : Engine Unit where
  resolver := .fixed fun
    | .txt _ => .ok ["v=spf1 a redirect=b.example".toList]
    | .a _ => .ok [⟨0⟩]
    | _ => .error .noSuchDomain
  options := {}
  now := 0

/-- Redirections without end meet the limit of lookups, at which neither another limit nor a word is exceeded. -/
theorem evaluate_counters_endless :
    let r : Request := ⟨"u@a.example".toList, "a.example".toList, .v4 ⟨1⟩, "a.example".toList, 0⟩
    let s : Session Unit := .start (.fresh 10 2) ()
    s.budget.lookups ≤ s.budget.maxLookups ∧ s.budget.voids ≤ s.budget.maxVoids ∧
      ((endless.evaluate r).runFrom s).1 = .error (.lookupLimit 10) ∧
      ((endless.evaluate r).runFrom s).2.budget.voids ≤ 2 ∧
      (∀ n, ((endless.evaluate r).runFrom s).1 ≠ .error (.depthLimit n)) ∧
      ((endless.evaluate r).runFrom s).2.budget.lookups ≤ Text.maxWord := by
  intro r s
  have hend : ((endless.evaluate r).runFrom s).1 = .error (.lookupLimit 10) := by decide +kernel
  obtain ⟨t, hs, -, -, hvoids, hfresh⟩ := evaluate_counters endless r s (by decide) (by decide)
  obtain ⟨hdepth, -, hword⟩ := hfresh rfl rfl
  refine ⟨by decide, by decide, hend, hvoids ?_, hdepth (by decide), ?_⟩
  · rw [hend]
    nofun
  · rw [hs]
    exact (hword (by decide) t List.suffix_rfl).1

/-- The queries that an evaluation sends are bounded by the lookups that it charges. -/
theorem evaluate_queries_le (E : Engine σ) (r : Request) (s : Session σ) :
    ∃ d, ((E.evaluate r).runFrom s).2.budget.lookups = s.budget.lookups + d ∧
      ((E.evaluate r).runFrom s).2.queries.length ≤
        s.queries.length + (d + 1) * (3 * E.options.maxPtrNames + 5) := by
  obtain ⟨t, ht⟩ := evaluate_affords (E := E) r s
  have hcost := (ht.fits List.suffix_rfl).queries_le
  refine ⟨t.count .charged, ?_, ?_⟩
  · rw [ht.replays, Session.lookups_replay]
  · rw [ht.replays, Session.queries_replay, List.length_append, List.length_reverse, Nat.add_mul]
    simp only [Options.earned, levelCost] at hcost
    omega

/-- A resolver that keeps a log was asked the queries of the evaluation, in their order, and no others. -/
theorem evaluate_log (E : Engine σ) (r : Request) (budget : Budget) (state : σ) :
    let E' : Engine (σ × List Query) := { E with resolver := E.resolver.logged }
    let s' := ((E'.evaluate r).runFrom (.start budget (state, []))).2
    s'.resolver.2.reverse = s'.queries := by
  intro E' s'
  obtain ⟨t, ht⟩ := evaluate_affords (E := E') r (.start budget (state, []))
  have hs' : s' = (Session.start budget (state, [])).replay E.resolver.logged t := ht.replays
  rw [hs', Session.log_replay, Session.queries_replay]
  simp [Session.start, Session.queries]

end Engine

end SenderPolicy
