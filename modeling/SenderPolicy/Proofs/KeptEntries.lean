import SenderPolicy.Proofs.History

/-!
# What a cache keeps

After any steps, by any clock, a cache keeps answers that settle their queries, at most one for each key, and each until
some fixed time after it came (`entries_reached`). A lookup does one of three things to a cache (`Effect`): it changes
nothing that is kept, it keeps one answer more and then drops expired ones if there are too many, or there is no time at
which the answer would expire.
-/

namespace SenderPolicy.Cache

variable {σ : Type} {q : Query} {now threshold : Nat} {entries : List Entry} {e : Entry} {c : Cache σ}

/-! ## Entries -/

/-- An answer settles its query exactly if it settles the key of that. -/
lemma isSettled_toKey (answer : Answer q) : answer.toKey.isSettled = answer.isSettled := by
  cases q <;> cases answer <;> rfl

/-- After a sweep for a query there are no more answers of its type than wanted, or all of them are fresh. -/
lemma sweep_bounded (threshold now : Nat) (q : Query) (entries : List Entry) :
    (sweep threshold now q entries).countP (·.key.sameType q) ≤ threshold ∨
      ∀ e ∈ sweep threshold now q entries, e.key.sameType q = true → e.isFresh now = true := by
  rw [sweep]
  split
  · refine .inr fun e he htype => ?_
    simpa [htype] using (List.mem_filter.mp he).2
  · next hfew => exact .inl (Nat.le_of_not_lt hfew)

/-- A fresh entry outlives a sweep. -/
lemma mem_sweep_of_isFresh (he : e ∈ entries) (hfresh : e.isFresh now = true) : e ∈ sweep threshold now q entries := by
  rw [sweep]
  split
  · exact List.mem_filter.mpr ⟨he, by rw [hfresh, Bool.or_true]⟩
  · exact he

/-- What may be kept: answers that settle their queries, each under the key of some query and one for each key, and
nothing if answers are kept for no time. -/
structure Kept (settings : Settings) (entries : List Entry) : Prop where
  isSettled : ∀ e ∈ entries, e.answer.isSettled = true
  exists_key : ∀ e ∈ entries, ∃ q : Query, e.key = q.key
  nodup : (entries.map Entry.key).Nodup
  eq_nil : settings.ttl = 0 → entries = []

namespace Kept

variable {settings : Settings}

/-- No entries at all may be kept. -/
lemma nil : Kept settings [] :=
  ⟨nofun, nofun, List.nodup_nil, fun _ => rfl⟩

variable (h : Kept settings entries)

include h

/-- Of what may be kept, any part may be. -/
lemma of_sublist {fewer : List Entry} (hsub : fewer.Sublist entries) : Kept settings fewer where
  isSettled e he := h.isSettled e (hsub.subset he)
  exists_key e he := h.exists_key e (hsub.subset he)
  nodup := (hsub.map Entry.key).nodup h.nodup
  eq_nil httl := List.sublist_nil.mp (h.eq_nil httl ▸ hsub)

/-- A settled answer may be added, in place of an earlier one with its key. -/
lemma insert {answer : Answer q} (hsettled : answer.isSettled = true) (httl : settings.ttl ≠ 0) (expiry : Nat) :
    Kept settings (Cache.insert q answer expiry entries) where
  isSettled e he := by
    rcases List.mem_cons.mp he with rfl | he
    · exact (isSettled_toKey answer).trans hsettled
    · exact h.isSettled e (List.mem_filter.mp he).1
  exists_key e he := by
    rcases List.mem_cons.mp he with rfl | he
    · exact ⟨q, rfl⟩
    · exact h.exists_key e (List.mem_filter.mp he).1
  nodup := by
    refine List.nodup_cons.mpr ⟨fun hmem => ?_, (List.filter_sublist.map Entry.key).nodup h.nodup⟩
    -- the entries with the key of the query were taken out
    obtain ⟨e, he, hkey⟩ := List.mem_map.mp hmem
    have hother := (List.mem_filter.mp he).2
    rw [Bool.not_eq_true', Entry.isFor, beq_eq_false_iff_ne] at hother
    exact hother hkey
  eq_nil hzero := absurd hzero httl

end Kept

/-! ## Steps by a clock -/

section

variable (R : Resolver σ) (settings : Settings) (clock : Nat → Nat)

/-- The cache after one more step, by a clock. A lookup reads the clock twice, a purge reads it once. -/
def advance : Step → Cache σ → Cache σ
  | .lookup q, c => ((R.cached settings clock).ask q c).2
  | .purge, c => { c.purged (clock c.readings) with readings := c.readings + 1 }
  | .clear, c => c.cleared

/-- The cache after steps by a clock, the last one first. -/
def reached (start : σ) (steps : List Step) : Cache σ :=
  steps.foldr (advance R settings clock) (empty start)

/-- When the answer to a query is there that the cache sends next. -/
def arrival (c : Cache σ) : Nat :=
  clock (c.readings + 1)

/-- The answer to a query is to be kept: none is found, the other resolver settles the query, and answers are kept at
all. -/
structure IsToKeep (c : Cache σ) (q : Query) : Prop where
  unfound : find? c.entries q (clock c.readings) = none
  settled : (R.ask q c.resolver).1.isSettled = true
  ttl_ne_zero : settings.ttl ≠ 0

/-- What a lookup does to a cache. -/
inductive Effect (c : Cache σ) (q : Query) (next : Cache σ) : Prop where
  | unchanged (hnot : ¬c.IsToKeep R settings clock q) (hentries : next.entries = c.entries)
      (hclock : next.hasOverrun = c.hasOverrun)
  | kept (hkeep : c.IsToKeep R settings clock q) (htime : c.arrival clock + settings.ttl < timeLimit)
      (hentries : next.entries = sweep settings.threshold (c.arrival clock) q
        (insert q (R.ask q c.resolver).1 (c.arrival clock + settings.ttl) c.entries))
      (hclock : next.hasOverrun = c.hasOverrun)
  | overrun (hkeep : c.IsToKeep R settings clock q) (htime : timeLimit ≤ c.arrival clock + settings.ttl)
      (hentries : next.entries = c.entries) (hclock : next.hasOverrun = true)

/-- A lookup changes nothing, keeps its answer, or overruns the clock. -/
lemma lookup_effect (c : Cache σ) (q : Query) :
    Effect R settings clock c q (c.advance R settings clock (.lookup q)) := by
  rw [advance, Resolver.cached]
  dsimp only
  rw [ask]
  cases hfind : find? c.entries q (clock c.readings) with
  | some answer =>
    have hnot : ¬c.IsToKeep R settings clock q := fun h => Option.some_ne_none answer (hfind.symm.trans h.unfound)
    exact .unchanged hnot rfl rfl
  | none =>
    dsimp only
    rw [keep]
    split
    · next hkept =>
      rw [Bool.and_eq_true, bne_iff_ne] at hkept
      have hkeep : c.IsToKeep R settings clock q := ⟨hfind, hkept.1, hkept.2⟩
      dsimp only
      split
      · next htime => exact .kept hkeep htime rfl rfl
      · next htime => exact .overrun hkeep (Nat.le_of_not_lt htime) rfl rfl
    · next hkept =>
      rw [Bool.and_eq_true, bne_iff_ne] at hkept
      exact .unchanged (fun h => hkept ⟨h.settled, h.ttl_ne_zero⟩) rfl rfl

/-- Every step leaves what may be kept. -/
lemma Kept.advance (h : Kept settings c.entries) (s : Step) : Kept settings (c.advance R settings clock s).entries := by
  cases s with
  | clear => exact .nil
  | purge => exact h.of_sublist List.filter_sublist
  | lookup q =>
    cases lookup_effect R settings clock c q with
    | unchanged _ hentries _ => exact hentries ▸ h
    | overrun _ _ hentries _ => exact hentries ▸ h
    | kept hkeep _ hentries _ =>
      rw [hentries]
      exact (h.insert hkeep.settled hkeep.ttl_ne_zero _).of_sublist (sweep_sublist _ _ _ _)

variable (start : σ)

/-- After any steps there is only what may be kept. -/
lemma kept_reached (steps : List Step) : Kept settings (reached R settings clock start steps).entries := by
  induction steps with
  | nil => exact .nil
  | cons s older ih => exact ih.advance R settings clock s

/-! ## How long entries are kept -/

/-- Among steps, the last one first, a lookup brought the entry at a time, and none dropped it since. -/
inductive KeptSince (e : Entry) (time : Nat) : List Step → Prop where
  | lookup {q : Query} {older : List Step} (hbefore : e ∉ (reached R settings clock start older).entries)
      (hafter : e ∈ (reached R settings clock start (.lookup q :: older)).entries)
      (htime : (reached R settings clock start older).arrival clock = time) : KeptSince e time (.lookup q :: older)
  | since {s : Step} {older : List Step} (h : KeptSince e time older)
      (hafter : e ∈ (reached R settings clock start (s :: older)).entries) : KeptSince e time (s :: older)

variable {R settings clock start} {steps : List Step} {time : Nat}

/-- Every entry was brought by some lookup. By induction on the steps. -/
lemma exists_keptSince (he : e ∈ (reached R settings clock start steps).entries) :
    ∃ time, KeptSince R settings clock start e time steps := by
  induction steps with
  | nil => cases he
  | cons s older ih =>
    by_cases hbefore : e ∈ (reached R settings clock start older).entries
    · obtain ⟨time, hsince⟩ := ih hbefore
      exact ⟨time, .since hsince he⟩
    · cases s with
      | clear => cases he
      | purge => exact absurd (List.mem_filter.mp he).1 hbefore
      | lookup q => exact ⟨_, .lookup hbefore he rfl⟩

/-- An entry expires as long after it came as answers are kept. -/
lemma KeptSince.expiry_eq (h : KeptSince R settings clock start e time steps) : e.expiry = time + settings.ttl := by
  induction h with
  | since _ _ ih => exact ih
  | @lookup q older hbefore hafter htime =>
    cases lookup_effect R settings clock (reached R settings clock start older) q with
    | unchanged _ hentries _ => exact absurd (hentries ▸ hafter) hbefore
    | overrun _ _ hentries _ => exact absurd (hentries ▸ hafter) hbefore
    | kept _ _ hentries _ =>
      replace hafter := mem_of_mem_sweep (hentries ▸ hafter)
      rcases List.mem_cons.mp hafter with rfl | hafter
      · exact congrArg (· + settings.ttl) htime
      · exact absurd (List.mem_filter.mp hafter).1 hbefore

end

/-! ## What is kept after any steps -/

/-- After any steps, by any clock, no answer is kept that another attempt may not meet, there is one for each key, and
none if answers are kept for no time. Every entry came with some lookup, and expires as long after it as answers are
kept. A lookup that keeps an answer leaves no more answers of its type than wanted, or only fresh ones; any other lookup
leaves the entries as they are. -/
theorem entries_reached (R : Resolver σ) (settings : Settings) (clock : Nat → Nat) (start : σ) (steps : List Step) :
    let c := reached R settings clock start steps
    (∀ e ∈ c.entries, (∀ error, e.answer = .error error → error.isTransient = false) ∧ (∃ q : Query, e.key = q.key) ∧
        (∃ time, KeptSince R settings clock start e time steps) ∧
        ∀ time, KeptSince R settings clock start e time steps → e.expiry = time + settings.ttl) ∧
      (c.entries.map Entry.key).Nodup ∧ (settings.ttl = 0 → c.entries = []) ∧
      ∀ q,
        let next := c.advance R settings clock (.lookup q)
        let keeps := c.IsToKeep R settings clock q ∧ c.arrival clock + settings.ttl < timeLimit
        (keeps → (∃ e ∈ next.entries, e.key = q.key ∧ e.isFresh (c.arrival clock) = true) ∧
          (next.entries.countP (·.key.sameType q) ≤ settings.threshold ∨
            ∀ e ∈ next.entries, e.key.sameType q = true → e.isFresh (c.arrival clock) = true)) ∧
        (¬keeps → next.entries = c.entries) := by
  intro c
  -- the invariant of a run gives what is so of the entries, and the cases of one lookup give the rest
  have hkept : Kept settings c.entries := kept_reached R settings clock start steps
  refine ⟨fun e he => ⟨fun error herror => ?_, hkept.exists_key e he, exists_keptSince he, fun time h => h.expiry_eq⟩,
    hkept.nodup, hkept.eq_nil, fun q => ?_⟩
  · have hsettled := hkept.isSettled e he
    rw [herror] at hsettled
    simpa [Answer.isSettled] using hsettled
  · intro next keeps
    cases lookup_effect R settings clock c q with
    | unchanged hnot hentries _ => exact ⟨fun h => absurd h.1 hnot, fun _ => hentries⟩
    | overrun _ htime hentries _ => exact ⟨fun h => absurd h.2 (Nat.not_lt.mpr htime), fun _ => hentries⟩
    | kept hkeep htime hentries _ =>
      refine ⟨fun _ => ?_, fun h => absurd ⟨hkeep, htime⟩ h⟩
      have hfresh : (⟨q.key, (R.ask q c.resolver).1.toKey, c.arrival clock + settings.ttl⟩ : Entry).isFresh
          (c.arrival clock) = true :=
        decide_eq_true (Nat.lt_add_of_pos_right (Nat.pos_of_ne_zero hkeep.ttl_ne_zero))
      have hbound := sweep_bounded settings.threshold (c.arrival clock) q
        (insert q (R.ask q c.resolver).1 (c.arrival clock + settings.ttl) c.entries)
      rw [← hentries] at hbound
      refine ⟨⟨_, ?_, rfl, hfresh⟩, hbound⟩
      rw [hentries]
      exact mem_sweep_of_isFresh List.mem_cons_self hfresh

/-- Every text tells how many queries were sent before it, and all other queries fail. -/
def numbered : Resolver Nat where
  ask q n :=
    match q with
    | .txt _ => (.ok [Text.ofNat n], n + 1)
    | _ => (.error .serverFailure, n + 1)

/-- Three texts and an address are asked for, one nanosecond a reading of the clock. -/
def threeTexts : List Step :=
  [.lookup (.txt "c.example".toList), .lookup (.a "b.example".toList), .lookup (.txt "B.Example.".toList), .purge,
    .lookup (.txt "a.example".toList)]

/-- The first text was dropped with the third, since it had expired, and a fourth one leaves all others, since none
has. -/
theorem entries_reached_threeTexts :
    let settings : Settings := ⟨7, 1⟩
    let c := reached numbered settings id 0 threeTexts
    let q : Query := .txt "d.example".toList
    let next := c.advance numbered settings id (.lookup q)
    c.entries.map (·.expiry) = [15, 11] ∧ next.entries.map (·.expiry) = [17, 15, 11] ∧
      (∃ e ∈ c.entries, KeptSince numbered settings id 0 e 4 threeTexts) ∧
      ∀ e ∈ next.entries, e.key.sameType q = true → e.isFresh 10 = true := by
  intro settings c q next
  have hexpiries : c.entries.map (·.expiry) = [15, 11] := by decide +kernel
  have hkeeps : c.IsToKeep numbered settings id q ∧ c.arrival id + settings.ttl < timeLimit :=
    ⟨⟨by decide +kernel, by decide +kernel, by decide⟩, by decide +kernel⟩
  obtain ⟨hentries, -, -, hlookup⟩ := entries_reached numbered settings id 0 threeTexts
  refine ⟨hexpiries, by decide +kernel, ?_, ?_⟩
  · have hmem : 11 ∈ c.entries.map (·.expiry) := hexpiries ▸ by decide
    obtain ⟨e, he, hexpiry⟩ := List.mem_map.mp hmem
    obtain ⟨-, -, ⟨time, hsince⟩, htime⟩ := hentries e he
    obtain rfl : time = 4 := Nat.add_right_cancel ((htime time hsince).symm.trans hexpiry)
    exact ⟨e, he, hsince⟩
  · exact ((hlookup q).1 hkeeps).2.resolve_left (by decide +kernel)

end SenderPolicy.Cache
