import SenderPolicy.Proofs.Keeping

/-!
# Kept answers, by their history

What a cache does is told by the history of what was done with it, whatever the other resolver answers and however
often the cache was rid of expired answers (`ask_after`): a query that an earlier one was for (`Recalls`) has the answer
of that one, and every other query reaches the other resolver.

Every step leaves a cache that finds what the history recalls (`Remembers`). What is dropped because it has expired is
not found at any later time (`find?_filter`), so purging is not noticed, and neither is how soon a cache purges by
itself (`Interchangeable`).
-/

namespace SenderPolicy

variable {σ : Type}

/-- The answer to a query, as the answer to another with the same key. -/
def Answer.respell {q' q : Query} (h : q'.key = q.key) (answer : Answer q') : Answer q :=
  Answer.ofKey (h ▸ answer.toKey)

namespace Cache

/-! ## What is found -/

variable {q q' : Query} {now t : Nat} {entries : List Entry}

/-- An entry that has expired answers nothing. -/
lemma answer?_of_not_isFresh {e : Entry} (h : e.isFresh now = false) : e.answer? q now = none := by
  rw [Entry.answer?]
  split
  · rw [if_neg (Bool.eq_false_iff.mp h)]
  · rfl

/-- An entry that has expired stays so. -/
lemma Entry.not_isFresh_mono {e : Entry} (ht : t ≤ now) (h : e.isFresh t = false) : e.isFresh now = false := by
  rw [isFresh, decide_eq_false_iff_not] at h ⊢
  omega

/-- Entries that do not answer a query may be dropped. -/
lemma find?_filter {p : Entry → Bool} (hp : ∀ e, p e = false → e.answer? q now = none) :
    find? (entries.filter p) q now = find? entries q now := by
  induction entries with
  | nil => rfl
  | cons e entries ih =>
    cases he : p e with
    | true =>
      rw [List.filter_cons_of_pos he, find?, find?, List.findSome?_cons, List.findSome?_cons, ← find?, ih, find?]
    | false =>
      rw [List.filter_cons_of_neg (Bool.eq_false_iff.mp he), ih, find?, find?, List.findSome?_cons, hp e he]

/-- What is found later is found whether or not expired entries are dropped now. -/
lemma find?_purge (ht : t ≤ now) : find? (purge t entries) q now = find? entries q now :=
  find?_filter fun _ he => answer?_of_not_isFresh (Entry.not_isFresh_mono ht he)

/-- What is found later is found whether or not there is a sweep now. -/
lemma find?_sweep (ht : t ≤ now) (threshold : Nat) :
    find? (sweep threshold t q' entries) q now = find? entries q now := by
  rw [sweep]
  split
  · refine find?_filter fun e he => answer?_of_not_isFresh (Entry.not_isFresh_mono ht ?_)
    exact (Bool.or_eq_false_iff.mp he).2
  · rfl

/-- The entry for a query answers all of its spellings until it expires. -/
lemma answer?_mk (answer : Answer q') (expiry : Nat) :
    (⟨q'.key, answer.toKey, expiry⟩ : Entry).answer? q now =
      if h : q'.key = q.key then if now < expiry then some (answer.respell h) else none else none := by
  simp only [Entry.answer?, Entry.isFresh, decide_eq_true_eq]
  rfl

/-- An answer takes the place of all others with its key, and of no other. -/
lemma find?_insert (answer : Answer q') (expiry : Nat) :
    find? (insert q' answer expiry entries) q now =
      if h : q'.key = q.key then if now < expiry then some (answer.respell h) else none else find? entries q now := by
  -- all entries with the key of the answer are dropped, and no others
  have hrest : find? (entries.filter (!·.isFor q')) q now = if q'.key = q.key then none else find? entries q now := by
    split
    · next h =>
      refine List.findSome?_eq_none_iff.mpr fun e he => ?_
      have hne : e.key ≠ q.key := by
        have hfor := (List.mem_filter.mp he).2
        rw [Entry.isFor, Bool.not_eq_true', beq_eq_false_iff_ne, h] at hfor
        exact hfor
      rw [Entry.answer?, dif_neg hne]
    · next h =>
      refine find?_filter fun e he => ?_
      have heq : e.key = q'.key := by
        rw [Bool.not_eq_false', Entry.isFor, beq_iff_eq] at he
        exact he
      rw [Entry.answer?, dif_neg (heq ▸ h)]
  rw [insert, find?, List.findSome?_cons, ← find?, hrest, answer?_mk]
  by_cases h : q'.key = q.key
  · rw [dif_pos h, dif_pos h, if_pos h]
    by_cases hfresh : now < expiry
    · rw [if_pos hfresh]
    · rw [if_neg hfresh]
  · rw [dif_neg h, dif_neg h, if_neg h]

/-! ## One query -/

variable {settings : Settings} {c : Cache σ}

/-- The queries that reach the other resolver when a query is answered at a time. -/
def sent (R : Resolver σ) (settings : Settings) (now : Nat) (q : Query) (c : Cache σ) : List Query :=
  let logging : Cache (σ × List Query) := ⟨(c.resolver, []), c.entries, c.readings, c.hasOverrun⟩
  (logging.ask R.logged settings now now q).2.resolver.2

/-- Keeping an answer leaves the other resolver alone. -/
lemma keep_resolver (answer : Answer q) : (c.keep settings now q answer).resolver = c.resolver := by
  rw [keep]
  split
  · dsimp only
    split
    · rfl
    · rfl
  · rfl

/-- A clock that was overrun stays so. -/
lemma hasOverrun_of_keep {answer : Answer q} (h : c.hasOverrun = true) :
    (c.keep settings now q answer).hasOverrun = true := by
  rw [keep]
  split
  · dsimp only
    split
    · exact h
    · rfl
  · exact h

section

variable (R : Resolver σ) (settings : Settings)

/-- A query that is found is answered so, and sends nothing. -/
lemma ask_of_find? {answer : Answer q} (h : find? c.entries q now = some answer) :
    c.ask R settings now now q = (answer, c) ∧ c.sent R settings now q = [] := by
  rw [sent, ask, ask, h]
  exact ⟨rfl, rfl⟩

/-- A query that is not found is sent, and its answer is kept. -/
lemma ask_of_find?_eq_none (h : find? c.entries q now = none) :
    c.ask R settings now now q =
        ((R.ask q c.resolver).1,
          keep settings now q (R.ask q c.resolver).1 { c with resolver := (R.ask q c.resolver).2 }) ∧
      c.sent R settings now q = [q] := by
  rw [sent, ask, ask, h]
  exact ⟨rfl, congrArg Prod.snd (keep_resolver _)⟩

/-- A query reaches the other resolver exactly if nothing is found for it. -/
lemma sent_eq_self_iff : c.sent R settings now q = [q] ↔ find? c.entries q now = none := by
  cases h : find? c.entries q now with
  | some answer => exact iff_of_false (by rw [(ask_of_find? R settings h).2]; nofun) nofun
  | none => exact iff_of_true (ask_of_find?_eq_none R settings h).2 rfl

end

/-- What is found after an answer is kept: the answer itself if it settled the query and has not expired, in any
spelling of the query. -/
lemma find?_keep (answer : Answer q') (ht : t ≤ now) (hclock : (c.keep settings t q' answer).hasOverrun = false) :
    find? (c.keep settings t q' answer).entries q now =
      if h : q'.key = q.key ∧ answer.isSettled = true ∧ settings.ttl ≠ 0 then
        if now < t + settings.ttl then some (answer.respell h.1) else none
      else find? c.entries q now := by
  by_cases hkept : answer.isSettled = true ∧ settings.ttl ≠ 0
  · rw [keep, if_pos (by simpa using hkept)] at hclock ⊢
    dsimp only at hclock ⊢
    by_cases htime : t + settings.ttl < timeLimit
    · rw [if_pos htime, find?_sweep ht, find?_insert]
      by_cases hkey : q'.key = q.key
      · rw [dif_pos hkey, dif_pos ⟨hkey, hkept⟩]
      · rw [dif_neg hkey, dif_neg fun h => hkey h.1]
    · rw [if_neg htime] at hclock
      cases hclock
  · rw [keep, if_neg (by simpa using hkept), dif_neg fun h => hkept h.2]

/-! ## Histories -/

/-- What is done with a cache. -/
inductive Step where
  | lookup (q : Query)
  | purge
  | clear
deriving DecidableEq

/-- The cache after one more step. The other resolver may be another one at every time. -/
def step (R : Nat → Resolver σ) (settings : Settings) (now : Nat) : Step → Cache σ → Cache σ
  | .lookup q, c => (c.ask (R now) settings now now q).2
  | .purge, c => c.purged now
  | .clear, c => c.cleared

/-- The cache after steps, each at its time, the last one first. -/
def after (R : Nat → Resolver σ) (settings : Settings) (start : σ) (history : List (Nat × Step)) : Cache σ :=
  history.foldr (fun (now, s) c => c.step R settings now s) (empty start)

/-- Time does not run backwards from the steps of a history, the last one first, until now. -/
def InOrder (now : Nat) (history : List (Nat × Step)) : Prop :=
  (now :: history.map Prod.fst).Pairwise (· ≥ ·)

/-- After a history a query is answered like an earlier one with the same key. -/
inductive Recalls (R : Nat → Resolver σ) (settings : Settings) (start : σ) (now : Nat) (q : Query) :
    List (Nat × Step) → Answer q → Prop where
  /-- The earlier query reached the other resolver and was settled, and its answer has not expired. -/
  | lookup {time : Nat} {q' : Query} {older : List (Nat × Step)} (hkey : q'.key = q.key)
      (hreached : (after R settings start older).sent (R time) settings time q' = [q'])
      (hsettled : ((after R settings start older).ask (R time) settings time time q').1.isSettled = true)
      (hfresh : now < time + settings.ttl) :
      Recalls R settings start now q ((time, .lookup q') :: older)
        (((after R settings start older).ask (R time) settings time time q').1.respell hkey)
  /-- No later step dropped all answers. -/
  | since {time : Nat} {s : Step} {older : List (Nat × Step)} {answer : Answer q} (hs : s ≠ .clear)
      (h : Recalls R settings start now q older answer) : Recalls R settings start now q ((time, s) :: older) answer

/-- From a time on, the cache finds after a history what that recalls. -/
def Remembers (R : Nat → Resolver σ) (settings : Settings) (start : σ) (t : Nat) (history : List (Nat × Step)) : Prop :=
  ∀ now (q : Query) (answer : Answer q), t ≤ now →
    (find? (after R settings start history).entries q now = some answer ↔
      Recalls R settings start now q history answer)

section

variable {R : Nat → Resolver σ} {start : σ} {history : List (Nat × Step)}

/-- The last step of a history is no later than now, and those before it are in order until then. -/
lemma InOrder.of_cons {p : Nat × Step} (h : InOrder now (p :: history)) : p.1 ≤ now ∧ InOrder p.1 history := by
  obtain ⟨hnow, hrest⟩ := List.pairwise_cons.mp h
  exact ⟨hnow p.1 List.mem_cons_self, hrest⟩

/-- A history in order until a time is so until any later time. -/
lemma InOrder.mono (h : InOrder t history) (ht : t ≤ now) : InOrder now history := by
  obtain ⟨hnow, hrest⟩ := List.pairwise_cons.mp h
  exact List.pairwise_cons.mpr ⟨fun time hmem => (hnow time hmem).trans ht, hrest⟩

/-- A clock that was overrun stays so at every step. -/
lemma hasOverrun_of_step {s : Step} (h : c.hasOverrun = true) : (c.step R settings now s).hasOverrun = true := by
  cases s with
  | purge => exact h
  | clear => exact h
  | lookup q =>
    rw [step, ask]
    split
    · exact h
    · exact hasOverrun_of_keep h

/-- What may be recalled later may be recalled sooner. -/
lemma Recalls.of_le {answer : Answer q} (hq : q'.key = q.key) (ht : t ≤ now)
    (h : Recalls R settings start now q history answer) : ∃ answer', Recalls R settings start t q' history answer' := by
  induction h with
  | lookup hkey hreached hsettled hfresh =>
    exact ⟨_, .lookup (hkey.trans hq.symm) hreached hsettled (ht.trans_lt hfresh)⟩
  | since hs h ih =>
    obtain ⟨answer', h'⟩ := ih
    exact ⟨answer', .since hs h'⟩

/-- Nothing is recalled from before all answers were dropped. -/
lemma not_recalls_clear (answer : Answer q) : ¬Recalls R settings start now q ((t, .clear) :: history) answer := by
  intro h
  cases h with
  | since hs _ => exact hs rfl

/-- A purge, or a query that did not reach the other resolver, leaves what is recalled as it was. -/
lemma recalls_cons_iff {s : Step} (hs : s ≠ .clear) (hsent : ∀ q', s = .lookup q' →
    (after R settings start history).sent (R t) settings t q' ≠ [q']) (answer : Answer q) :
    Recalls R settings start now q ((t, s) :: history) answer ↔ Recalls R settings start now q history answer := by
  refine ⟨fun h => ?_, .since hs⟩
  cases h with
  | lookup _ hreached => exact absurd hreached (hsent _ rfl)
  | since _ h => exact h

/-- A query that reached the other resolver is the only one with its key that is recalled, if it is recalled at all. -/
lemma recalls_lookup_iff {found : Answer q'}
    (hsent : (after R settings start history).sent (R t) settings t q' = [q'])
    (hanswer : ((after R settings start history).ask (R t) settings t t q').1 = found) (ht : t ≤ now)
    (hold : q'.key = q.key → ∀ answer, ¬Recalls R settings start now q history answer) (answer : Answer q) :
    Recalls R settings start now q ((t, .lookup q') :: history) answer ↔
      if h : q'.key = q.key ∧ found.isSettled = true ∧ settings.ttl ≠ 0 then
        now < t + settings.ttl ∧ found.respell h.1 = answer
      else Recalls R settings start now q history answer := by
  subst hanswer
  split
  · next h =>
    obtain ⟨hkey, hsettled, -⟩ := h
    constructor
    · intro h
      cases h with
      | lookup _ _ _ hfresh => exact ⟨hfresh, rfl⟩
      | since _ h => exact absurd h (hold hkey answer)
    · rintro ⟨hfresh, rfl⟩
      exact .lookup hkey hsent hsettled hfresh
  · next hnot =>
    refine ⟨fun h => ?_, .since nofun⟩
    cases h with
    | lookup hkey _ hsettled hfresh => exact absurd ⟨hkey, hsettled, by omega⟩ hnot
    | since _ h => exact h

namespace Remembers

/-- What is remembered from a time on is remembered from any later time on. -/
lemma mono (h : Remembers R settings start t history) (ht : t ≤ now) : Remembers R settings start now history :=
  fun later q answer hlater => h later q answer (ht.trans hlater)

/-- With all answers dropped there is nothing to find and nothing to recall. -/
lemma cleared : Remembers R settings start t ((t, .clear) :: history) :=
  fun _ _ answer _ => iff_of_false nofun (not_recalls_clear answer)

/-- Dropping what has expired changes neither what is found nor what is recalled. -/
lemma purged (h : Remembers R settings start t history) : Remembers R settings start t ((t, .purge) :: history) := by
  intro now q answer ht
  rw [recalls_cons_iff (s := .purge) nofun nofun, ← h now q answer ht]
  show find? (purge t (after R settings start history).entries) q now = some answer ↔ _
  rw [find?_purge ht]

/-- A query that is found drops nothing and keeps nothing. -/
lemma lookup_of_find? {kept : Answer q'} (h : Remembers R settings start t history)
    (hfind : find? (after R settings start history).entries q' t = some kept) :
    Remembers R settings start t ((t, .lookup q') :: history) := by
  intro now q answer ht
  obtain ⟨hask, hsent⟩ := ask_of_find? (R t) settings hfind
  have hunsent : ∀ q'', Step.lookup q' = .lookup q'' →
      (after R settings start history).sent (R t) settings t q'' ≠ [q''] := by
    rintro q'' ⟨⟩
    rw [hsent]
    nofun
  rw [recalls_cons_iff (s := .lookup q') nofun hunsent, ← h now q answer ht]
  show find? ((after R settings start history).ask (R t) settings t t q').2.entries q now = some answer ↔ _
  rw [hask]

/-- A query that is not found takes the place of what was kept for it. -/
lemma lookup_of_find?_eq_none (h : Remembers R settings start t history)
    (hfind : find? (after R settings start history).entries q' t = none)
    (hclock : (after R settings start ((t, .lookup q') :: history)).hasOverrun = false) :
    Remembers R settings start t ((t, .lookup q') :: history) := by
  intro now q answer ht
  obtain ⟨hask, hsent⟩ := ask_of_find?_eq_none (R t) settings hfind
  have hstate := congrArg Prod.snd hask
  have hkept := (congrArg Cache.hasOverrun hstate).symm.trans hclock
  -- an earlier answer would have been found at the time of the lookup
  have hold : q'.key = q.key → ∀ answer, ¬Recalls R settings start now q history answer := by
    intro hkey answer hrecalls
    obtain ⟨answer', hsooner⟩ := hrecalls.of_le hkey ht
    rw [← h t q' answer' (Nat.le_refl t), hfind] at hsooner
    cases hsooner
  show find? ((after R settings start history).ask (R t) settings t t q').2.entries q now = some answer ↔ _
  rw [recalls_lookup_iff hsent (congrArg Prod.fst hask) ht hold, hstate, find?_keep _ ht hkept]
  split
  · simp only [ite_eq_iff, Option.some.injEq, reduceCtorEq, and_false, or_false]
  · exact h now q answer ht

/-- One step more is remembered too. -/
lemma step (h : Remembers R settings start t history) (s : Step)
    (hclock : (after R settings start ((t, s) :: history)).hasOverrun = false) :
    Remembers R settings start t ((t, s) :: history) := by
  cases s with
  | clear => exact cleared
  | purge => exact h.purged
  | lookup q' =>
    cases hfind : find? (after R settings start history).entries q' t with
    | some kept => exact h.lookup_of_find? hfind
    | none => exact h.lookup_of_find?_eq_none hfind hclock

end Remembers

/-- What is found after a history is what it recalls. By induction on the history. -/
lemma remembers_after (horder : InOrder now history) (hclock : (after R settings start history).hasOverrun = false) :
    Remembers R settings start now history := by
  induction history generalizing now with
  | nil => exact fun _ _ _ _ => iff_of_false nofun nofun
  | cons p older ih =>
    obtain ⟨time, s⟩ := p
    obtain ⟨htime, horder⟩ := horder.of_cons
    have hclock' : (after R settings start older).hasOverrun = false :=
      Bool.eq_false_iff.mpr fun h => Bool.eq_false_iff.mp hclock (hasOverrun_of_step h)
    exact ((ih horder hclock').step s hclock).mono htime

/-- An answer that is kept for no time is never recalled. -/
lemma Recalls.ttl_ne_zero {answer : Answer q} (h : Recalls R settings start now q history answer)
    (horder : InOrder now history) : settings.ttl ≠ 0 := by
  induction h with
  | lookup hkey hreached hsettled hfresh =>
    have htime := horder.of_cons.1
    omega
  | since hs h ih =>
    obtain ⟨htime, holder⟩ := horder.of_cons
    exact ih (holder.mono htime)

end

/-! ## Purging -/

/-- From a time on two caches find the same, and the other resolver is in the same state. -/
structure Interchangeable (t : Nat) (c₁ c₂ : Cache σ) : Prop where
  resolver_eq : c₁.resolver = c₂.resolver
  hasOverrun_eq : c₁.hasOverrun = c₂.hasOverrun
  find?_eq : ∀ {now} (q : Query), t ≤ now → find? c₁.entries q now = find? c₂.entries q now

namespace Interchangeable

variable {c₁ c₂ c₃ : Cache σ} {settings₁ settings₂ : Settings} (h : Interchangeable t c₁ c₂)

include h

/-- Caches are interchangeable both ways. -/
lemma symm : Interchangeable t c₂ c₁ :=
  ⟨h.resolver_eq.symm, h.hasOverrun_eq.symm, fun q ht => (h.find?_eq q ht).symm⟩

/-- Caches that are interchangeable with the same one are so with each other. -/
lemma trans (h' : Interchangeable t c₂ c₃) : Interchangeable t c₁ c₃ :=
  ⟨h.resolver_eq.trans h'.resolver_eq, h.hasOverrun_eq.trans h'.hasOverrun_eq,
    fun q ht => (h.find?_eq q ht).trans (h'.find?_eq q ht)⟩

/-- Caches that are interchangeable from a time on are so from any later time on. -/
lemma mono (ht : t ≤ now) : Interchangeable now c₁ c₂ :=
  ⟨h.resolver_eq, h.hasOverrun_eq, fun q hnow => h.find?_eq q (ht.trans hnow)⟩

/-- A cache may be purged while the other one is not. -/
lemma purged_left : Interchangeable t (c₁.purged t) c₂ :=
  ⟨h.resolver_eq, h.hasOverrun_eq, fun q ht => (find?_purge ht).trans (h.find?_eq q ht)⟩

/-- Caches without answers are interchangeable if their resolvers are in one state. -/
lemma cleared : Interchangeable t c₁.cleared c₂.cleared :=
  ⟨h.resolver_eq, h.hasOverrun_eq, fun _ _ => rfl⟩

variable (httl : settings₁.ttl = settings₂.ttl)

include httl

/-- An answer is kept in both or in neither. How many there are when expired ones are dropped does not matter. -/
lemma keep (answer : Answer q) :
    Interchangeable t (c₁.keep settings₁ t q answer) (c₂.keep settings₂ t q answer) := by
  rw [Cache.keep, Cache.keep, httl]
  split
  · dsimp only
    split
    · refine ⟨h.resolver_eq, h.hasOverrun_eq, fun q' ht => ?_⟩
      rw [find?_sweep ht, find?_sweep ht, find?_insert, find?_insert, h.find?_eq q' ht]
    · exact ⟨h.resolver_eq, rfl, h.find?_eq⟩
  · exact h

/-- Queries get the same answers, and the same ones are sent. -/
lemma ask (R : Resolver σ) (q : Query) :
    (c₁.ask R settings₁ t t q).1 = (c₂.ask R settings₂ t t q).1 ∧ c₁.sent R settings₁ t q = c₂.sent R settings₂ t q ∧
      Interchangeable t (c₁.ask R settings₁ t t q).2 (c₂.ask R settings₂ t t q).2 := by
  have hfind := h.find?_eq q (Nat.le_refl t)
  cases hfound : find? c₂.entries q t with
  | some answer =>
    obtain ⟨hask₁, hsent₁⟩ := ask_of_find? R settings₁ (hfind.trans hfound)
    obtain ⟨hask₂, hsent₂⟩ := ask_of_find? R settings₂ hfound
    rw [hask₁, hask₂, hsent₁, hsent₂]
    exact ⟨rfl, rfl, h⟩
  | none =>
    obtain ⟨hask₁, hsent₁⟩ := ask_of_find?_eq_none R settings₁ (hfind.trans hfound)
    obtain ⟨hask₂, hsent₂⟩ := ask_of_find?_eq_none R settings₂ hfound
    rw [hask₁, hask₂, hsent₁, hsent₂, h.resolver_eq]
    have hnext : Interchangeable t { c₁ with resolver := (R.ask q c₂.resolver).2 }
        { c₂ with resolver := (R.ask q c₂.resolver).2 } := ⟨rfl, h.hasOverrun_eq, h.find?_eq⟩
    exact ⟨rfl, rfl, hnext.keep httl _⟩

end Interchangeable

section

variable (R : Nat → Resolver σ) (start : σ) {settings₁ settings₂ : Settings} (httl : settings₁.ttl = settings₂.ttl)

include httl

/-- A cache that is never purged finds the same. By induction on the history. -/
lemma interchangeable_unpurged {history : List (Nat × Step)} (horder : InOrder now history) :
    Interchangeable now (after R settings₁ start history)
      (after R settings₂ start (history.filter (·.2 ≠ .purge))) := by
  induction history generalizing now with
  | nil => exact ⟨rfl, rfl, fun _ _ => rfl⟩
  | cons p older ih =>
    obtain ⟨time, s⟩ := p
    obtain ⟨htime, horder⟩ := horder.of_cons
    refine Interchangeable.mono ?_ htime
    cases s with
    | purge => exact (ih horder).purged_left
    | clear => exact (ih horder).cleared
    | lookup q => exact ((ih horder).ask httl (R time) q).2.2

/-- After histories that differ in purges only, caches find the same. -/
lemma interchangeable_after {history₁ history₂ : List (Nat × Step)} (horder₁ : InOrder now history₁)
    (horder₂ : InOrder now history₂) (hsame : history₁.filter (·.2 ≠ .purge) = history₂.filter (·.2 ≠ .purge)) :
    Interchangeable now (after R settings₁ start history₁) (after R settings₂ start history₂) := by
  have hrefl : settings₂.ttl = settings₂.ttl := rfl
  have h₁ : Interchangeable now _ _ := interchangeable_unpurged R start httl horder₁
  have h₂ : Interchangeable now _ _ := interchangeable_unpurged R start hrefl horder₂
  exact h₁.trans (hsame ▸ h₂.symm)

end

/-! ## The history decides -/

/-- After any history that did not overrun the clock, a query reaches the other resolver exactly if no earlier one is
recalled; it has the answer of the other resolver then, and that of the earlier query otherwise. An answer that is kept
for no time is not recalled. Histories that differ in purges only, under any threshold, have the same answers and send
the same queries. -/
theorem ask_after (R : Nat → Resolver σ) (settings : Settings) (start : σ) {history : List (Nat × Step)} {now : Nat}
    (horder : InOrder now history) (hclock : (after R settings start history).hasOverrun = false) (q : Query) :
    let c := after R settings start history
    let answer := (c.ask (R now) settings now now q).1
    (c.sent (R now) settings now q = [q] ↔ ∀ earlier, ¬Recalls R settings start now q history earlier) ∧
      (c.sent (R now) settings now q = [q] → answer = ((R now).ask q c.resolver).1) ∧
      (∀ earlier, Recalls R settings start now q history earlier →
        c.sent (R now) settings now q = [] ∧ answer = earlier) ∧
      (settings.ttl = 0 → c.sent (R now) settings now q = [q]) ∧
      ∀ (threshold : Nat) (history' : List (Nat × Step)), InOrder now history' →
        history'.filter (·.2 ≠ .purge) = history.filter (·.2 ≠ .purge) →
        let settings' := { settings with threshold := threshold }
        let c' := after R settings' start history'
        (c'.ask (R now) settings' now now q).1 = answer ∧
          c'.sent (R now) settings' now q = c.sent (R now) settings now q := by
  intro c answer
  have hfind : ∀ earlier, find? c.entries q now = some earlier ↔ Recalls R settings start now q history earlier :=
    fun earlier => remembers_after horder hclock now q earlier (Nat.le_refl now)
  have hsent : c.sent (R now) settings now q = [q] ↔ ∀ earlier, ¬Recalls R settings start now q history earlier := by
    rw [sent_eq_self_iff, Option.eq_none_iff_forall_ne_some]
    exact forall_congr' fun earlier => not_congr (hfind earlier)
  refine ⟨hsent, fun h => ?_, fun earlier h => ?_, fun httl => ?_, fun threshold history' horder' hsame => ?_⟩
  · exact congrArg Prod.fst (ask_of_find?_eq_none (R now) settings ((sent_eq_self_iff _ _).mp h)).1
  · obtain ⟨hask, hnone⟩ := ask_of_find? (R now) settings ((hfind earlier).mpr h)
    exact ⟨hnone, congrArg Prod.fst hask⟩
  · exact hsent.mpr fun earlier h => h.ttl_ne_zero horder httl
  · let settings' : Settings := { settings with threshold := threshold }
    have httl : settings'.ttl = settings.ttl := rfl
    obtain ⟨hanswer, hsent, -⟩ := (interchangeable_after R start httl horder' horder hsame).ask httl (R now) q
    exact ⟨hanswer, hsent⟩

/-- Every text tells how many queries were sent before it, and one name is asked for in vain. -/
def counted (time : Nat) : Resolver Nat where
  ask q n :=
    match q with
    | .txt name => (if name = "b.example".toList then .error .serverFailure else .ok [Text.ofNat n], n + time)
    | _ => (.error .noSuchDomain, n + time)

/-- A text is asked for in three spellings, with a purge and a lookup that fails in between. -/
def threeSpellings : List (Nat × Step) :=
  [(16, .lookup (.txt "a.example".toList)), (14, .lookup (.txt "b.example".toList)), (12, .purge),
    (10, .lookup (.txt " A.Example.".toList)), (3, .lookup (.txt "a.example".toList))]

/-- The text is recalled from the second time it was sent until that expires, with the purge or without it. -/
theorem ask_after_threeSpellings :
    let settings : Settings := ⟨7, 1⟩
    let c := after counted settings 0 threeSpellings
    let unpurged := after counted ⟨7, 0⟩ 0 (threeSpellings.filter (·.2 ≠ .purge))
    let q : Query := .txt "A.EXAMPLE".toList
    InOrder 16 threeSpellings ∧ InOrder 17 threeSpellings ∧ c.hasOverrun = false ∧
      (c.ask (counted 16) settings 16 16 q).1 = .ok ["3".toList] ∧ c.sent (counted 16) settings 16 q = [] ∧
      (unpurged.ask (counted 16) ⟨7, 0⟩ 16 16 q).1 = .ok ["3".toList] ∧ unpurged.sent (counted 16) ⟨7, 0⟩ 16 q = [] ∧
      ∀ earlier, ¬Recalls counted settings 0 17 q threeSpellings earlier := by
  intro settings c unpurged q
  have horder : ∀ now, 16 ≤ now → InOrder now threeSpellings := fun now hnow =>
    InOrder.mono (t := 16) (by unfold InOrder; decide) hnow
  have hclock : c.hasOverrun = false := by decide +kernel
  let second := (after counted settings 0 [(3, .lookup (.txt "a.example".toList))]).ask (counted 10) settings 10 10
    (.txt " A.Example.".toList)
  have hanswer : second.1.respell (q := q) (by decide) = .ok ["3".toList] := by decide +kernel
  have hrecalls : Recalls counted settings 0 16 q threeSpellings (.ok ["3".toList]) := by
    rw [← hanswer]
    refine .since nofun (.since nofun (.since nofun (.lookup _ ?_ ?_ ?_)))
    · decide +kernel
    · decide +kernel
    · decide
  obtain ⟨-, -, hfound, -, hunpurged⟩ := ask_after counted settings 0 (horder 16 (Nat.le_refl 16)) hclock q
  obtain ⟨hexpired, -⟩ := ask_after counted settings 0 (horder 17 (by decide)) hclock q
  obtain ⟨hsent, hanswer⟩ := hfound _ hrecalls
  obtain ⟨hanswer', hsent'⟩ :=
    hunpurged 0 (threeSpellings.filter (·.2 ≠ .purge)) (by unfold InOrder; decide) (by decide)
  exact ⟨horder 16 (Nat.le_refl 16), horder 17 (by decide), hclock, hanswer, hsent, hanswer'.trans hanswer,
    hsent'.trans hsent, hexpired.mp (by decide +kernel)⟩

end Cache

end SenderPolicy
