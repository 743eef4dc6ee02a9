import Mathlib.Data.List.Infix
import SenderPolicy.Evaluation.Request
import SenderPolicy.Proofs.Course

/-!
# Allowances

What a check may cost, stated so that checks compose. A charged lookup earns an allowance: as many queries as
`earned` says, one empty answer, and one level of depth. `Fits` says of a list of events that it gets by on what it
earns and an allowance given beforehand. `Affords` says of a check that from any session it goes through events that
fit at every point (`Course`), and which failures tell what about the counters.

`Asks` is the simpler notion for probes, which earn nothing. The rules at the end are those by which the checks of
an engine are composed; `affords_charge_bind` is where an allowance is earned.
-/

namespace SenderPolicy

variable {σ α β : Type}

/-- The queries that one charged lookup earns: three times the reverse names that are looked at, and five. -/
def Options.earned (o : Options) : Nat :=
  3 * o.maxPtrNames + 5

/-- Events that cost no more than they earn and an allowance: so many queries and so many empty answers. No level
below `depth` is entered before its depth is earned. -/
structure Fits (earned depth queries voids : Nat) (t : List Event) : Prop where
  queries_le : (t.filterMap Event.query?).length ≤ t.count .charged * earned + queries
  voids_le : t.count .void ≤ t.count .charged + voids
  depth_le : ∀ {domain n}, .entered domain n ∈ t → n ≤ depth + t.count .charged

namespace Fits

variable {earned depth q q' v v' : Nat} {t u : List Event}

/-- No events cost nothing. -/
lemma nil : Fits earned depth q v [] :=
  ⟨Nat.zero_le _, Nat.zero_le _, nofun⟩

/-- Before the first event nothing was spent. -/
lemma of_suffix_nil (hu : u <:+ []) : Fits earned depth q v u := by
  rw [List.suffix_nil.mp hu]
  exact .nil

/-- Later events may spend what earlier ones left of their allowance. -/
lemma append (ht : Fits earned depth q' v' t) (hu : Fits earned depth q v u) :
    Fits earned depth (q + q') (v + v') (t ++ u) := by
  obtain ⟨hq, hv, hd⟩ := hu
  obtain ⟨hq', hv', hd'⟩ := ht
  refine ⟨?_, ?_, ?_⟩
  · rw [List.filterMap_append, List.length_append, List.count_append, Nat.add_mul]
    omega
  · rw [List.count_append, List.count_append]
    omega
  · intro domain n hn
    rw [List.count_append]
    rcases List.mem_append.mp hn with hn | hn
    · have := hd' hn
      omega
    · have := hd hn
      omega

/-- What gets by on an allowance gets by on a greater one. -/
lemma mono (ht : Fits earned depth q v t) (hq : q ≤ q') (hv : v ≤ v') : Fits earned depth q' v' t :=
  ⟨ht.queries_le.trans (by omega), ht.voids_le.trans (by omega), ht.depth_le⟩

/-- A charge pays for the allowance of what follows it. -/
lemma append_charged (ht : Fits earned (depth + 1) earned 1 t) : Fits earned depth 0 0 (t ++ [.charged]) := by
  obtain ⟨hq, hv, hd⟩ := ht
  refine ⟨?_, ?_, ?_⟩
  · rw [List.filterMap_append, List.length_append, List.count_append, Nat.add_mul]
    simpa [List.filterMap_cons, Event.query?] using hq
  · rw [List.count_append, List.count_append]
    simpa using hv
  · intro domain n hn
    rw [List.count_append]
    rcases List.mem_append.mp hn with hn | hn
    · have := hd hn
      simp
      omega
    · simp at hn

/-- Queries alone cost as many queries as they are. -/
lemma asked (qs : List Query) : Fits earned depth qs.length 0 (qs.map .asked) := by
  have hlength : ((qs.map Event.asked).filterMap Event.query?).length = qs.length := by
    simp [List.filterMap_map, Function.comp_def, Event.query?]
  have hcharged : (qs.map Event.asked).count .charged = 0 := by simp [List.count_eq_zero]
  have hvoid : (qs.map Event.asked).count .void = 0 := by simp [List.count_eq_zero]
  refine ⟨by omega, by omega, ?_⟩
  intro domain n hn
  simp at hn

/-- To enter a level of the depth that was earned costs nothing. -/
lemma entered {domain : Text} (hu : u <:+ [.entered domain depth]) : Fits earned depth q v u := by
  rcases List.suffix_cons_iff.mp hu with rfl | hu
  · exact ⟨Nat.zero_le _, Nat.zero_le _, by simp⟩
  · exact .of_suffix_nil hu

end Fits

namespace Engine

variable (E : Engine σ)

/-- A check that starts in `s` ends with `x` in `s'` after the events `t`, which fit at every point. -/
structure Course (depth queries voids : Nat) (s : Session σ) (t : List Event) (x : Except Failure α)
    (s' : Session σ) : Prop where
  replays : s' = s.replay E.resolver t
  fits : ∀ {u}, u <:+ t → Fits E.options.earned depth queries voids u
  /-- No lookup is charged beyond the limit. -/
  lookups_le : s.budget.lookups ≤ s.budget.maxLookups → s'.budget.lookups ≤ s.budget.maxLookups
  /-- Only the last empty answer may exceed the limit, and the check then fails for it. -/
  voids_eq : s.budget.voids ≤ s.budget.maxVoids →
    ∀ {n}, x = .error (.voidLimit n) → s'.budget.voids = s.budget.maxVoids + 1
  voids_le : s.budget.voids ≤ s.budget.maxVoids →
    (∀ n, x ≠ .error (.voidLimit n)) → s'.budget.voids ≤ s.budget.maxVoids
  /-- A level that is too deep was entered. -/
  tooDeep : ∀ {n}, x = .error (.depthLimit n) → ∃ domain m, .entered domain m ∈ t ∧ E.options.maxDepth < m

/-- From every session the check gets by on an allowance. -/
def Affords (depth queries voids : Nat) (c : Check σ α) : Prop :=
  ∀ s, ∃ t, E.Course depth queries voids s t (c.runFrom s).1 (c.runFrom s).2

/-- From every session the probe sends at most so many queries, and does nothing else. -/
def Asks (n : Nat) (p : Probe σ α) : Prop :=
  ∀ s, ∃ qs : List Query, qs.length ≤ n ∧ (p.runFrom s).2 = s.replay E.resolver (qs.map .asked)

variable {E} {m n depth q q' v v' a b : Nat}

/-! ## Probes -/

/-- A probe that only answers sends no query. -/
lemma asks_pure (a : α) : E.Asks n (pure a : Probe σ α) :=
  fun _ => ⟨[], Nat.zero_le _, rfl⟩

/-- To ask costs one query. -/
lemma asks_ask (query : Query) : E.Asks 1 (Probe.ask E.resolver query) :=
  fun s => ⟨[query], Nat.le_refl _, congrArg Prod.snd (Session.runFrom_ask E.resolver query s)⟩

/-- A probe that keeps to a number of queries keeps to a greater one. -/
lemma Asks.mono {p : Probe σ α} (hp : E.Asks m p) (h : m ≤ n) : E.Asks n p := by
  intro s
  obtain ⟨qs, hqs, hs⟩ := hp s
  exact ⟨qs, hqs.trans h, hs⟩

/-- Probes in a row send the queries of both. -/
lemma Asks.bind {p : Probe σ α} {k : α → Probe σ β} (hp : E.Asks m p) (hk : ∀ a, E.Asks n (k a)) :
    E.Asks (m + n) (p >>= k) := by
  intro s
  obtain ⟨qs, hqs, hs⟩ := hp s
  obtain ⟨qs', hqs', hs'⟩ := hk (p.runFrom s).1 (p.runFrom s).2
  refine ⟨qs' ++ qs, ?_, ?_⟩
  · rw [List.length_append]
    omega
  · rw [Probe.runFrom_bind, hs', hs, List.map_append, Session.replay_append]

/-- What asks nothing may follow for free. -/
lemma Asks.bind_free {p : Probe σ α} {k : α → Probe σ β} (hp : E.Asks n p) (hk : ∀ a, E.Asks 0 (k a)) :
    E.Asks n (p >>= k) :=
  hp.bind hk

/-- A filter asks for each element at most what its test asks, whatever it has kept so far. -/
lemma asks_filterAuxM {p : α → Probe σ Bool} (hp : ∀ a, E.Asks 1 (p a)) (l kept : List α) :
    E.Asks l.length (l.filterAuxM p kept) := by
  induction l generalizing kept with
  | nil => exact asks_pure kept
  | cons a l ih => exact ((hp a).bind fun _ => ih _).mono (by rw [List.length_cons]; omega)

/-- A filter asks for each element at most what its test asks. -/
lemma asks_filterM {p : α → Probe σ Bool} (hp : ∀ a, E.Asks 1 (p a)) (l : List α) :
    E.Asks l.length (l.filterM p) :=
  (asks_filterAuxM hp l []).bind_free fun _ => asks_pure _

/-! ## Checks -/

/-- A check that gets by on an allowance gets by on a greater one. -/
lemma Affords.mono {c : Check σ α} (hc : E.Affords depth q v c) (hq : q ≤ q') (hv : v ≤ v') :
    E.Affords depth q' v' c := by
  intro s
  obtain ⟨t, ht⟩ := hc s
  exact ⟨t, { ht with fits := fun hu => (ht.fits hu).mono hq hv }⟩

/-- Checks in a row get by on both their allowances. -/
lemma Affords.bind {c : Check σ α} {k : α → Check σ β} (hc : E.Affords depth q v c)
    (hk : ∀ x, E.Affords depth a b (k x)) : E.Affords depth (q + a) (v + b) (c >>= k) := by
  intro s
  obtain ⟨t, ht⟩ := hc s
  rcases hrun : c.runFrom s with ⟨x, s₁⟩
  simp only [hrun] at ht
  cases x with
  | error f =>
    rw [Check.runFrom_bind_error hrun]
    exact ⟨t, ht.replays, fun hu => (ht.fits hu).mono (by omega) (by omega), ht.lookups_le,
      fun h _ e => ht.voids_eq h (by rw [Except.error.inj e]),
      fun h hn => ht.voids_le h fun n e => hn n (by rw [Except.error.inj e]),
      fun e => ht.tooDeep (by rw [Except.error.inj e])⟩
  | ok a =>
    rw [Check.runFrom_bind_ok hrun]
    obtain ⟨t', ht'⟩ := hk a s₁
    obtain ⟨hlookups, hvoids⟩ : s₁.budget.maxLookups = s.budget.maxLookups ∧
        s₁.budget.maxVoids = s.budget.maxVoids := by
      rw [ht.replays]
      exact s.limits_replay E.resolver t
    -- the first check did not fail, so the second starts within the limit
    have hstart : s.budget.voids ≤ s.budget.maxVoids → s₁.budget.voids ≤ s₁.budget.maxVoids :=
      fun h => hvoids ▸ ht.voids_le h nofun
    refine ⟨t' ++ t, ?_, ?_, ?_, ?_, ?_, ?_⟩
    · rw [ht'.replays, ht.replays, Session.replay_append]
    · -- a point of the whole course lies in the first part, or in the second after all of the first
      intro u hu
      rcases suffix_append_cases hu with hu | ⟨w, rfl, hw⟩
      · exact (ht.fits hu).mono (by omega) (by omega)
      · exact (ht'.fits hw).append (ht.fits List.suffix_rfl)
    · intro h
      exact hlookups ▸ ht'.lookups_le (hlookups ▸ ht.lookups_le h)
    · intro h n e
      exact hvoids ▸ ht'.voids_eq (hstart h) e
    · intro h hn
      exact hvoids ▸ ht'.voids_le (hstart h) hn
    · intro n e
      obtain ⟨domain, m, hm, hdeep⟩ := ht'.tooDeep e
      exact ⟨domain, m, List.mem_append_left _ hm, hdeep⟩

/-- What costs nothing beyond what it earns may follow for free. -/
lemma Affords.bind_free {c : Check σ α} {k : α → Check σ β} (hc : E.Affords depth q v c)
    (hk : ∀ a, E.Affords depth 0 0 (k a)) : E.Affords depth q v (c >>= k) :=
  hc.bind hk

/-- A check that only answers costs nothing. -/
lemma affords_pure (a : α) : E.Affords depth q v (pure a : Check σ α) := by
  intro s
  exact ⟨[], rfl, Fits.of_suffix_nil, id, nofun, fun h _ => h, nofun⟩

/-- Giving up costs nothing, for any reason but that a limit of the counters was met. -/
lemma affords_throw {f : Failure} (hvoid : ∀ n, f ≠ .voidLimit n) (hdepth : ∀ n, f ≠ .depthLimit n) :
    E.Affords depth q v (throw f : Check σ α) := by
  intro s
  refine ⟨[], rfl, Fits.of_suffix_nil, id, fun _ n e => ?_, fun h _ => h, fun {n} e => ?_⟩
  · exact absurd (Except.error.inj e) (hvoid n)
  · exact absurd (Except.error.inj e) (hdepth n)

/-- Nothing follows a failure. -/
lemma affords_throw_bind {f : Failure} (hvoid : ∀ n, f ≠ .voidLimit n) (hdepth : ∀ n, f ≠ .depthLimit n)
    {k : α → Check σ β} : E.Affords depth q v (throw f >>= k) := by
  intro s
  rw [Check.runFrom_bind_error (Check.runFrom_throw f s)]
  exact affords_throw (α := β) hvoid hdepth s

/-- The queries of a probe are spent by the check that it is part of. -/
lemma Asks.affords {p : Probe σ α} (hp : E.Asks q p) : E.Affords depth q v (liftM p) := by
  intro s
  obtain ⟨qs, hqs, hs⟩ := hp s
  have hbudget : (s.replay E.resolver (qs.map .asked)).budget.lookups = s.budget.lookups ∧
      (s.replay E.resolver (qs.map .asked)).budget.voids = s.budget.voids := by
    rw [Session.lookups_replay, Session.voids_replay]
    simp [List.count_eq_zero]
  rw [Check.runFrom_lift, hs]
  refine ⟨qs.map .asked, rfl, ?_, fun h => hbudget.1 ▸ h, nofun, fun h _ => hbudget.2 ▸ h, nofun⟩
  intro u hu
  obtain ⟨qs', hqs', rfl⟩ := List.suffix_map_iff.mp hu
  exact (Fits.asked qs').mono (hqs'.length_le.trans hqs) (Nat.zero_le _)

/-- To enter a level of the depth that was earned costs nothing. -/
lemma affords_enter (domain : Text) : E.Affords depth q v (Check.enter domain depth : Check σ Unit) :=
  fun _ => ⟨[.entered domain depth], rfl, Fits.entered, id, nofun, fun h _ => h, nofun⟩

/-- A level that is too deep is entered, and given up at once. -/
lemma affords_enter_tooDeep (domain : Text) (hdeep : E.options.maxDepth < depth) {k : α → Check σ β} :
    E.Affords depth q v
      (Check.enter domain depth >>= fun _ => throw (.depthLimit E.options.maxDepth) >>= k) := by
  intro s
  refine ⟨[.entered domain depth], ?_⟩
  rw [Check.runFrom_bind_ok (Session.runFrom_enter E.resolver domain depth s),
    Check.runFrom_bind_error (Check.runFrom_throw _ _)]
  exact ⟨rfl, Fits.entered, id, nofun, fun h _ => h,
    fun _ => ⟨domain, depth, List.mem_singleton_self _, hdeep⟩⟩

/-- An empty answer costs itself, and is counted even where it ends the check. -/
lemma affords_recordVoid : E.Affords depth q 1 (Check.recordVoid : Check σ Unit) := by
  intro s
  have hfits : ∀ {u}, u <:+ [Event.void] → Fits E.options.earned depth q 1 u := by
    intro u hu
    rcases List.suffix_cons_iff.mp hu with rfl | hu
    · exact ⟨Nat.zero_le _, Nat.le_refl _, by simp⟩
    · exact .of_suffix_nil hu
  refine ⟨[.void], ?_⟩
  rw [Session.runFrom_recordVoid E.resolver]
  by_cases hleft : s.budget.voids < s.budget.maxVoids
  · rw [if_pos hleft]
    exact ⟨rfl, hfits, id, nofun, fun _ _ => hleft, nofun⟩
  · -- the answer that is refused has been counted
    rw [if_neg hleft]
    refine ⟨rfl, hfits, id, fun h _ _ => ?_, fun _ hn => absurd rfl (hn _), nofun⟩
    have : s.budget.voids = s.budget.maxVoids := by omega
    exact congrArg (· + 1) this

/-- A charged lookup pays for what comes after it. -/
lemma affords_charge_bind {k : Unit → Check σ α} (hk : E.Affords (depth + 1) q v (k ()))
    (hq : q ≤ E.options.earned) (hv : v ≤ 1) : E.Affords depth 0 0 (Check.charge >>= k) := by
  intro s
  by_cases hleft : s.budget.lookups < s.budget.maxLookups
  · have hcharge := Session.runFrom_charge E.resolver s
    rw [if_pos hleft] at hcharge
    obtain ⟨t, ht⟩ := hk.mono hq hv (s.after E.resolver .charged)
    rw [Check.runFrom_bind_ok hcharge]
    refine ⟨t ++ [.charged], ?_, ?_, fun _ => ht.lookups_le hleft, ht.voids_eq, ht.voids_le, ?_⟩
    · rw [ht.replays, Session.replay_append]
      rfl
    · -- the charge is the first event, so at every other point it has been earned
      intro u hu
      rcases suffix_append_cases hu with hu | ⟨w, rfl, hw⟩
      · rcases List.suffix_cons_iff.mp hu with rfl | hu
        · exact .append_charged .nil
        · exact .of_suffix_nil hu
      · exact .append_charged (ht.fits hw)
    · intro n e
      obtain ⟨domain, m, hm, hdeep⟩ := ht.tooDeep e
      exact ⟨domain, m, List.mem_append_left _ hm, hdeep⟩
  · have hcharge := Session.runFrom_charge E.resolver s
    rw [if_neg hleft] at hcharge
    rw [Check.runFrom_bind_error hcharge]
    exact affords_throw (E := E) (f := .lookupLimit s.budget.maxLookups) nofun nofun s

end Engine

end SenderPolicy
