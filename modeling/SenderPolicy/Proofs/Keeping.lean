import SenderPolicy.Dns.Cache
import SenderPolicy.Proofs.Lockstep

/-!
# Kept answers

The answers of a resolver may be kept without anyone taking notice if they are fixed, and the same for all spellings of
a name. Every answer that a cache holds is then the one the resolver gives (`Holds`), whatever was asked, dropped or left
to expire before. So a cache goes in step with the resolver, and a checker over the cache has the outcomes of a checker
over the resolver (`outcomes_cached`).
-/

namespace SenderPolicy

variable {σ : Type}

/-- The answers of the resolver depend on the key of a query, and on nothing else. -/
def Resolver.AnswersByKey (R : Resolver σ) (answers : (key : Query) → Answer key) : Prop :=
  ∀ q state, (R.ask q state).1 = Answer.ofKey (answers q.key)

/-- An answer to a key is given to a query and taken back unchanged. -/
lemma Answer.toKey_ofKey {q : Query} (answer : Answer q.key) : (Answer.ofKey answer).toKey = answer := by
  cases q <;> rfl

namespace Cache

variable {answers : (key : Query) → Answer key} {settings : Settings} {clock : Nat → Nat} {R : Resolver σ} {c : Cache σ}
  {now : Nat}

/-- The entries are answers to their keys, and the clock is overrun only if it told a time at which no answer can be
kept. -/
structure Holds (answers : (key : Query) → Answer key) (settings : Settings) (clock : Nat → Nat) (c : Cache σ) : Prop where
  answer_eq : ∀ e ∈ c.entries, e.answer = answers e.key
  overrun : c.hasOverrun = true → ∃ n < c.readings, timeLimit ≤ clock n + settings.ttl

/-- An entry that answers a query does so with the answer of the resolver. -/
lemma Entry.eq_of_answer? {e : Entry} {q : Query} {answer : Answer q} (he : e.answer = answers e.key)
    (h : e.answer? q now = some answer) : answer = Answer.ofKey (answers q.key) := by
  obtain ⟨key, kept, expiry⟩ := e
  rw [answer?] at h
  split at h
  · next hkey =>
    split at h
    · obtain rfl := Option.some.inj h
      simp only at hkey
      subst hkey
      exact congrArg Answer.ofKey he
    · cases h
  · cases h

/-- A sweep only drops entries. -/
lemma sweep_sublist (threshold now : Nat) (q : Query) (entries : List Entry) :
    (sweep threshold now q entries).Sublist entries := by
  rw [sweep]
  split
  · exact List.filter_sublist
  · exact List.Sublist.refl entries

/-- What a sweep leaves was there before. -/
lemma mem_of_mem_sweep {threshold : Nat} {q : Query} {entries : List Entry} {e : Entry}
    (h : e ∈ sweep threshold now q entries) : e ∈ entries :=
  (sweep_sublist threshold now q entries).subset h

/-- Keeping an answer does not look at how often the clock was read. -/
lemma keep_readings (q : Query) (answer : Answer q) (c : Cache σ) (n : Nat) :
    { c.keep settings now q answer with readings := n } = Cache.keep settings now q answer { c with readings := n } := by
  simp only [keep]
  split
  · split <;> rfl
  · rfl

namespace Holds

variable (hc : c.Holds answers settings clock)

include hc

/-- What is found is the answer of the resolver. -/
lemma eq_of_find? {q : Query} {answer : Answer q} (h : find? c.entries q now = some answer) :
    answer = Answer.ofKey (answers q.key) := by
  obtain ⟨e, hmem, he⟩ := List.exists_of_findSome?_eq_some h
  exact e.eq_of_answer? (hc.answer_eq e hmem) he

/-- What a cache holds stays true while the clock is read and the resolver is asked. -/
lemma update (resolver : σ) {n : Nat} (hn : c.readings ≤ n) :
    Cache.Holds answers settings clock { c with resolver := resolver, readings := n } where
  answer_eq := hc.answer_eq
  overrun h :=
    have ⟨m, hm, htime⟩ := hc.overrun h
    ⟨m, Nat.lt_of_lt_of_le hm hn, htime⟩

/-- Keeping an answer that the resolver gives adds no other. -/
lemma keep {n : Nat} (hn : n < c.readings) (q : Query) :
    (c.keep settings (clock n) q (Answer.ofKey (answers q.key))).Holds answers settings clock := by
  rw [Cache.keep]
  split
  · simp only
    split
    · refine ⟨fun e he => ?_, hc.overrun⟩
      rcases List.mem_cons.mp (mem_of_mem_sweep he) with rfl | he
      · exact Answer.toKey_ofKey _
      · exact hc.answer_eq e (List.mem_filter.mp he).1
    · next htime => exact ⟨hc.answer_eq, fun _ => ⟨n, hn, Nat.le_of_not_lt htime⟩⟩
  · exact hc

/-- The resolver answers from what is kept as from its own, and still holds its answers. -/
theorem ask (hR : R.AnswersByKey answers) (q : Query) :
    ((R.cached settings clock).ask q c).1 = Answer.ofKey (answers q.key) ∧
      ((R.cached settings clock).ask q c).2.Holds answers settings clock := by
  simp only [Resolver.cached, Cache.ask]
  split
  · next answer hfind => exact ⟨hc.eq_of_find? hfind, hc.update _ (Nat.le_add_right _ 2)⟩
  · simp only [hR q c.resolver, keep_readings]
    exact ⟨trivial, (hc.update _ (Nat.le_add_right _ 2)).keep (Nat.lt_add_one _) q⟩

/-- What a cache holds stays true when expired answers are dropped. -/
lemma purged (now : Nat) : (c.purged now).Holds answers settings clock :=
  ⟨fun e he => hc.answer_eq e (List.mem_filter.mp he).1, hc.overrun⟩

/-- What a cache holds stays true when all answers are dropped. -/
lemma cleared : c.cleared.Holds answers settings clock :=
  ⟨nofun, hc.overrun⟩

end Holds

/-- A cache goes in step with its resolver while it holds the answers of the resolver. -/
lemma inStep_of_holds (hR : R.AnswersByKey answers) :
    (R.cached settings clock).InStep (fun c _ => c.Holds answers settings clock) R where
  answer_eq q _ state hc := (hc.ask hR q).1.trans (hR q state).symm
  next q _ _ hc := (hc.ask hR q).2

end Cache

/-! ## Checkers over a cache and without one -/

/-- What is done with a checker: it is asked something at a time, in seconds since the epoch, or told to drop the
answers that it keeps, the expired ones or all. -/
inductive Action where
  | ask (now : Nat) (inquiry : Inquiry)
  | purge
  | clear

/-- A resolver to check senders with, under options, and how it drops answers. -/
structure Checker (σ : Type) where
  resolver : Resolver σ
  options : Options
  purge : σ → σ
  clear : σ → σ

namespace Checker

/-- The checker that keeps no answers. -/
def plain (R : Resolver σ) (o : Options) : Checker σ :=
  ⟨R, o, id, id⟩

/-- The checker that keeps the answers of a resolver, by a clock. -/
def cached (R : Resolver σ) (o : Options) (settings : Cache.Settings) (clock : Nat → Nat) : Checker (Cache σ) where
  resolver := R.cached settings clock
  options := o
  purge c := { c.purged (clock c.readings) with readings := c.readings + 1 }
  clear := Cache.cleared

/-- The outcomes of actions one after another, and the state of the resolver after them. -/
def outcomes (C : Checker σ) : List Action → σ → List Outcome × σ
  | [], state => ([], state)
  | .ask now i :: actions, state =>
    let (outcome, session) := Engine.answer ⟨C.resolver, C.options, now⟩ state i
    let (found, last) := C.outcomes actions session.resolver
    (outcome :: found, last)
  | .purge :: actions, state => C.outcomes actions (C.purge state)
  | .clear :: actions, state => C.outcomes actions (C.clear state)

/-- Over a cache that holds the answers of the resolver, actions have the outcomes that they have without it. -/
lemma outcomes_of_holds {R : Resolver σ} {answers : (key : Query) → Answer key} (hR : R.AnswersByKey answers)
    (o : Options) (settings : Cache.Settings) (clock : Nat → Nat) (actions : List Action) {c : Cache σ}
    (hc : c.Holds answers settings clock) (state : σ) :
    ((cached R o settings clock).outcomes actions c).1 = ((plain R o).outcomes actions state).1 ∧
      ((cached R o settings clock).outcomes actions c).2.Holds answers settings clock := by
  -- each action leaves such a cache to those after it
  induction actions generalizing c state with
  | nil => exact ⟨rfl, hc⟩
  | cons action actions ih =>
    cases action with
    | ask now i =>
      have hengines : Engine.InStep (fun c _ => c.Holds answers settings clock) ⟨R.cached settings clock, o, now⟩
          ⟨R, o, now⟩ := ⟨Cache.inStep_of_holds hR, rfl, rfl⟩
      obtain ⟨houtcome, hnext⟩ := hengines.answer_lockstep (b := state) hc i
      obtain ⟨hfound, hlast⟩ := ih hnext (Engine.answer ⟨R, o, now⟩ state i).2.resolver
      exact ⟨congr (congrArg List.cons houtcome) hfound, hlast⟩
    | purge => exact ih ((hc.purged _).update _ (Nat.le_add_right _ 1)) state
    | clear => exact ih hc.cleared state

/-- Over a resolver whose answers depend on keys only, a checker that keeps answers has the outcomes of one that keeps
none, however long it keeps them and whatever is dropped in between. It does not overrun the clock if no answer kept at
a time that was read would expire after the last time there is. -/
theorem outcomes_cached (R : Resolver σ) {answers : (key : Query) → Answer key} (hR : R.AnswersByKey answers)
    (o : Options) (settings : Cache.Settings) (clock : Nat → Nat) (actions : List Action) (inner state : σ)
    (hclock : ∀ n < ((cached R o settings clock).outcomes actions (.empty inner)).2.readings,
      clock n + settings.ttl < Cache.timeLimit) :
    ((cached R o settings clock).outcomes actions (.empty inner)).1 = ((plain R o).outcomes actions state).1 ∧
      ((cached R o settings clock).outcomes actions (.empty inner)).2.hasOverrun = false := by
  have hempty : (Cache.empty inner).Holds answers settings clock := ⟨nofun, nofun⟩
  obtain ⟨hfound, hlast⟩ := outcomes_of_holds hR o settings clock actions hempty state
  refine ⟨hfound, Bool.eq_false_iff.mpr fun h => ?_⟩
  obtain ⟨n, hn, htime⟩ := hlast.overrun h
  exact Nat.not_lt.mpr htime (hclock n hn)

/-- A policy that spells its exchange in two ways, and explains itself. -/
def twoSpellings : (key : Query) → Answer key
  | .txt name =>
    if name = "a.example".toList then .ok ["v=spf1 mx a:MX.A.example. -all exp=why.a.example".toList]
    else if name = "why.a.example".toList then .ok ["%{i} at %{t}".toList]
    else .error .noSuchDomain
  | .mx _ => .ok [⟨10, "Mx.A.Example.".toList⟩]
  | .a _ => .ok [⟨0xC0000201⟩]
  | _ => .error .noSuchDomain

/-- Three clients are checked, the last one after all answers were dropped. -/
def threeClients : List Action :=
  [.ask 100 (.text "u@A.example".toList "192.0.2.1".toList), .ask 200 (.text "u@a.example.".toList "192.0.2.9".toList),
    .purge, .clear, .ask 300 (.text "u@a.example.".toList "192.0.2.9".toList)]

/-- With answers that expire soon fewer queries are sent, and the clients have the same outcomes. -/
theorem outcomes_cached_twoSpellings :
    let R : Resolver Nat := ⟨fun q sent => (Answer.ofKey (twoSpellings q.key), sent + 1)⟩
    let kept := (cached R {} ⟨7, 0⟩ id).outcomes threeClients (.empty 0)
    let fresh := (plain R {}).outcomes threeClients 0
    kept.1 = fresh.1 ∧ kept.2.hasOverrun = false ∧ kept.2.resolver < fresh.2 ∧
      kept.1.map (·.explanation) = [none, some "192.0.2.9 at 200".toList, some "192.0.2.9 at 300".toList] := by
  intro R
  have hreadings : ((cached R {} ⟨7, 0⟩ id).outcomes threeClients (.empty 0)).2.readings = 27 := by decide +kernel
  have hclock : ∀ n < ((cached R {} ⟨7, 0⟩ id).outcomes threeClients (.empty 0)).2.readings,
      id n + 7 < Cache.timeLimit := by
    rw [hreadings]
    decide +kernel
  obtain ⟨hfound, htime⟩ := outcomes_cached R (fun _ _ => rfl) {} ⟨7, 0⟩ id threeClients 0 0 hclock
  exact ⟨hfound, htime, by decide +kernel, by decide +kernel⟩

end Checker

end SenderPolicy
