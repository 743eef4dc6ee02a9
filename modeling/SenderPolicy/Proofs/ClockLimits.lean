import SenderPolicy.CommandLine.Disk
import SenderPolicy.Proofs.KeptEntries

/-!
# Times beyond the clock

An answer is kept until a time that is computed from the time at which it came. Neither the time for which answers are
kept nor the clock is bounded, so there may be no time to keep an answer until, and that is the end of the cache. The
history tells exactly when (`hasOverrun_reached_iff`): options admit every number of seconds that fits a word, and under
those past the middle of that range no answer can be kept at any time.
-/

namespace SenderPolicy

/-! ## Admitted times -/

namespace Options

variable {n : Nat}

/-- A number that fits a word is admitted as it is. -/
lemma count?_nat (hn : n ≤ Text.maxWord) : count? (.nat n) = some n := by
  rw [count?, Json.nat, Json.nat?, Text.numeral?_ofNat]
  exact Option.filter_some_pos (decide_eq_true hn)

/-- A number that was admitted fits a word. -/
lemma le_of_count? {v : Json} (h : count? v = some n) : n ≤ Text.maxWord := by
  cases v with
  | number t => exact of_decide_eq_true (Option.filter_eq_some_iff.mp h).2
  | _ => cases h

/-- An option that may be null has a number only if that is admitted. -/
lemma nullable?_count?_eq_some_iff (v : Json) : Json.nullable? count? v = some (some n) ↔ count? v = some n := by
  cases v with
  | null => exact iff_of_false nofun nofun
  | _ => simp [Json.nullable?]

/-- The time for which answers are kept is a number that fits a word, and every such number is admitted. -/
lemma exists_cacheTtl_iff : (∃ v o, ofJson? v = some o ∧ o.cacheTtl = some n) ↔ n ≤ Text.maxWord := by
  constructor
  · rintro ⟨v, o, h, httl⟩
    simp only [ofJson?, Option.bind_eq_bind, Option.bind_eq_some_iff] at h
    obtain ⟨fields, -, h⟩ := h
    split at h
    · next ttl _ _ =>
      simp only [Option.bind_eq_some_iff] at h
      obtain ⟨_, -, _, -, _, -, _, -, _, -, _, -, seconds, hread, _, -, _, -, heq⟩ := h
      obtain rfl : seconds = some n := by
        cases heq
        exact httl
      cases ttl with
      | none => cases hread
      | some v => exact le_of_count? ((nullable?_count?_eq_some_iff v).mp hread)
    · cases h
  · intro hn
    have hread : Json.nullable? count? (.nat n) = some (some n) :=
      (nullable?_count?_eq_some_iff _).mpr (count?_nat hn)
    have hfields : Json.looseFields? fieldNames (.ofMembers [("cache_ttl_secs".toList, .nat n)]) =
        some [none, none, none, none, none, none, some (.nat n), none, none] := rfl
    refine ⟨.ofMembers [("cache_ttl_secs".toList, .nat n)], { cacheTtl := some n }, ?_, rfl⟩
    simp only [ofJson?, hfields, field?, hread, Option.bind_eq_bind, Option.bind_some, Option.pure_def]

end Options

namespace Cache

open CommandLine (World run)
open CommandLine.Arguments (cacheSettings)

/-- No answer that is kept for so many seconds expires at a time that a clock can tell. -/
lemma timeLimit_le_ttl {o : Options} {n : Nat} (httl : o.cacheTtl = some n) (hn : 0x8000000000000000 ≤ n) :
    timeLimit ≤ (cacheSettings o).ttl := by
  rw [cacheSettings, httl]
  exact Nat.mul_le_mul_right second hn

/-! ## Clocks that are overrun -/

section

variable {σ : Type} (R : Resolver σ) (settings : Settings) (clock : Nat → Nat)

/-- The answer to a query is to be kept, until a time that no clock can tell. -/
def Overruns (c : Cache σ) (q : Query) : Prop :=
  c.IsToKeep R settings clock q ∧ timeLimit ≤ c.arrival clock + settings.ttl

/-- A lookup overruns the clock if it was overrun before, or if its own answer is to be kept too long. -/
lemma hasOverrun_lookup_iff (c : Cache σ) (q : Query) :
    (c.advance R settings clock (.lookup q)).hasOverrun = true ↔
      c.hasOverrun = true ∨ c.Overruns R settings clock q := by
  cases lookup_effect R settings clock c q with
  | unchanged hnot _ hclock => rw [hclock, or_iff_left fun h => hnot h.1]
  | kept _ htime _ hclock => rw [hclock, or_iff_left fun h => Nat.not_lt.mpr h.2 htime]
  | overrun hkeep htime _ hclock => exact iff_of_true hclock (.inr ⟨hkeep, htime⟩)

/-- A clock is overrun by a lookup, or it was before. -/
lemma hasOverrun_advance_iff (c : Cache σ) (s : Step) :
    (c.advance R settings clock s).hasOverrun = true ↔
      c.hasOverrun = true ∨ ∃ q, s = .lookup q ∧ c.Overruns R settings clock q := by
  cases s with
  | lookup q => simp only [hasOverrun_lookup_iff, Step.lookup.injEq, exists_eq_left']
  | purge => exact (or_iff_left nofun).symm
  | clear => exact (or_iff_left nofun).symm

/-- The clock was overrun in a run exactly if some lookup of it was the first to do so. -/
lemma hasOverrun_reached (start : σ) (steps : List Step) :
    (reached R settings clock start steps).hasOverrun = true ↔
      ∃ q older, .lookup q :: older <:+ steps ∧ (reached R settings clock start older).Overruns R settings clock q := by
  induction steps with
  | nil => exact iff_of_false nofun fun ⟨_, _, hsuffix, _⟩ => nomatch List.suffix_nil.mp hsuffix
  | cons s older ih =>
    rw [reached, List.foldr_cons, ← reached, hasOverrun_advance_iff, ih]
    constructor
    · rintro (⟨q, oldest, hsuffix, hover⟩ | ⟨q, rfl, hover⟩)
      · exact ⟨q, oldest, hsuffix.trans (List.suffix_cons s older), hover⟩
      · exact ⟨q, older, List.suffix_refl _, hover⟩
    · rintro ⟨q, oldest, hsuffix, hover⟩
      rcases List.suffix_cons_iff.mp hsuffix with heq | hsuffix
      · obtain ⟨rfl, rfl⟩ := List.cons.inj heq
        exact .inr ⟨q, rfl, hover⟩
      · exact .inl ⟨q, oldest, hsuffix, hover⟩

end

/-- After any steps, by any clock, that clock is overrun exactly if some lookup among them had an answer to keep until
a time that no clock can tell. A lookup that sends its query and has it settled gives the answer to it, and it overruns
the clock just so. Options admit all numbers of seconds that fit a word as the time for which answers are kept, and with
the upper half of them every lookup that has an answer to keep overruns the clock, whatever that tells. -/
theorem hasOverrun_reached_iff {σ : Type} (R : Resolver σ) (settings : Settings) (clock : Nat → Nat) (start : σ)
    (steps : List Step) :
    let c := reached R settings clock start steps
    (c.hasOverrun = true ↔ ∃ q older, .lookup q :: older <:+ steps ∧
        (reached R settings clock start older).Overruns R settings clock q) ∧
      (∀ q, find? c.entries q (clock c.readings) = none → (R.ask q c.resolver).1.isSettled = true →
        let found := (R.cached settings clock).ask q c
        found.1 = (R.ask q c.resolver).1 ∧ (found.2.hasOverrun = true ↔
          c.hasOverrun = true ∨ settings.ttl ≠ 0 ∧ timeLimit ≤ c.arrival clock + settings.ttl)) ∧
      ∀ seconds, ((∃ v o, Options.ofJson? v = some o ∧ o.cacheTtl = some seconds) ↔ seconds ≤ Text.maxWord) ∧
        ∀ o : Options, o.cacheTtl = some seconds → settings = cacheSettings o → 0x8000000000000000 ≤ seconds →
          ∀ q, c.IsToKeep R settings clock q → ((R.cached settings clock).ask q c).2.hasOverrun = true := by
  intro c
  refine ⟨hasOverrun_reached R settings clock start steps, fun q hfind hsettled => ⟨?_, ?_⟩,
    fun seconds => ⟨Options.exists_cacheTtl_iff, fun o httl hsettings hseconds q hkeep => ?_⟩⟩
  · rw [Resolver.cached]
    dsimp only
    rw [ask, hfind]
  · refine (hasOverrun_lookup_iff R settings clock c q).trans (or_congr_right ⟨fun h => ?_, fun h => ?_⟩)
    · exact ⟨h.1.ttl_ne_zero, h.2⟩
    · exact ⟨⟨hfind, hsettled, h.1⟩, h.2⟩
  · have htime : timeLimit ≤ c.arrival clock + settings.ttl :=
      hsettings ▸ (timeLimit_le_ttl httl hseconds).trans (Nat.le_add_left _ _)
    exact (hasOverrun_lookup_iff R settings clock c q).mpr (.inr ⟨hkeep, htime⟩)

/-- With the longest time that options admit no run survives its first answer, though it has that answer. A run with a
shorter time does. -/
theorem hasOverrun_longest :
    let R : Resolver Unit := ⟨fun q state =>
      match q with
      | .txt _ => (.ok ["v=spf1 ip4:1.1.1.1 -all".toList], state)
      | _ => (.error .noSuchDomain, state)⟩
    let W (seconds : Nat) : World Unit :=
      { input := []
        file := fun _ => .ok ("\x7b\"cache_ttl_secs\":".toList ++ Text.ofNat seconds ++ "\x7d".toList)
        resolver := .ok R
        state := ()
        clock := fun _ => 0
        now := 0 }
    let words := ["--cache", "--config", "c.json", "--format", "ndjson", "check", "a.com", "1.1.1.1"].map String.toList
    let found := (R.cached (cacheSettings { cacheTtl := some Text.maxWord }) fun _ => 0).ask (.txt "a.com".toList) (.empty ())
    found.1 = .ok ["v=spf1 ip4:1.1.1.1 -all".toList] ∧ found.2.hasOverrun = true ∧
      run (W Text.maxWord) words = .overrun ∧ (run (W 300) words).exitCode = 0 := by
  decide +kernel

end Cache

end SenderPolicy
