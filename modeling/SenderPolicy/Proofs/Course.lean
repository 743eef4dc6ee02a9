import Mathlib.Tactic.Lemma
import SenderPolicy.Evaluation.Session

/-!
# The course of a check, replayed

A check changes its session only by events: `Session.after` is what one event does, and `Session.replay` what a list
of them does, the last one first as in the journal. So the sessions that a check passes through are the replays of
the suffixes of its events.

The first part gives the runs of the small steps that checks are composed of (`Check.runFrom_bind` and its kin). The
second counts: the counters of a replayed session are the counts of its events, and its journal and its queries are
extended by them.
-/

namespace SenderPolicy

variable {σ α β : Type}

/-- The answer of a probe that starts in a session, and the session it ends in. -/
def Probe.runFrom (s : Session σ) (p : Probe σ α) : α × Session σ :=
  StateT.run p s

namespace Probe

/-- A probe that only answers leaves the session as it is. -/
@[simp]
lemma runFrom_pure (a : α) (s : Session σ) : (pure a : Probe σ α).runFrom s = (a, s) := rfl

/-- A probe in two parts goes on with the second where the first has ended. -/
@[simp]
lemma runFrom_bind (p : Probe σ α) (k : α → Probe σ β) (s : Session σ) :
    (p >>= k).runFrom s = (k (p.runFrom s).1).runFrom (p.runFrom s).2 := rfl

end Probe

namespace Check

/-- A check that only answers leaves the session as it is. -/
@[simp]
lemma runFrom_pure (a : α) (s : Session σ) : (pure a : Check σ α).runFrom s = (.ok a, s) := rfl

/-- A check that fails leaves the session as it is. -/
@[simp]
lemma runFrom_throw (f : Failure) (s : Session σ) : (throw f : Check σ α).runFrom s = (.error f, s) := rfl

/-- A probe as a check always has an answer. -/
@[simp]
lemma runFrom_lift (p : Probe σ α) (s : Session σ) :
    (liftM p : Check σ α).runFrom s = (.ok (p.runFrom s).1, (p.runFrom s).2) := rfl

/-- A check may look at the session before it goes on. -/
@[simp]
lemma runFrom_get_bind (k : Session σ → Check σ α) (s : Session σ) :
    (get >>= k : Check σ α).runFrom s = (k s).runFrom s := rfl

/-- A check in two parts goes on with the second part unless the first one fails. -/
lemma runFrom_bind (c : Check σ α) (k : α → Check σ β) (s : Session σ) :
    (c >>= k).runFrom s =
      match c.runFrom s with
      | (.ok a, s') => (k a).runFrom s'
      | (.error f, s') => (.error f, s') := by
  have hrun : (c >>= k).runFrom s = (ExceptT.bindCont k (c.runFrom s).1).run (c.runFrom s).2 := rfl
  rw [hrun]
  rcases c.runFrom s with ⟨x, s'⟩
  cases x with
  | ok a => rfl
  | error f => rfl

/-- After a first part that has an answer the second part goes on with it. -/
lemma runFrom_bind_ok {c : Check σ α} {k : α → Check σ β} {a s s'} (h : c.runFrom s = (.ok a, s')) :
    (c >>= k).runFrom s = (k a).runFrom s' := by
  rw [runFrom_bind, h]

/-- After a first part that fails nothing follows. -/
lemma runFrom_bind_error {c : Check σ α} {k : α → Check σ β} {f s s'}
    (h : c.runFrom s = (.error f, s')) : (c >>= k).runFrom s = (.error f, s') := by
  rw [runFrom_bind, h]

end Check

/-- A suffix of two lists in a row is a suffix of the second, or a suffix of the first before all of the second. -/
lemma suffix_append_cases {t t' u : List α} (h : u <:+ t' ++ t) :
    u <:+ t ∨ ∃ w, u = w ++ t ∧ w <:+ t' := by
  obtain ⟨z, hz⟩ := h
  rcases List.append_eq_append_iff.mp hz with ⟨w, rfl, rfl⟩ | ⟨w, rfl, rfl⟩
  · exact .inr ⟨w, rfl, List.suffix_append z w⟩
  · exact .inl (List.suffix_append w u)

/-- A suffix that is not empty starts in the second list, or in the first before all of the second. -/
lemma cons_suffix_append_cases {a : α} {t t' u : List α} (h : a :: u <:+ t' ++ t) :
    a :: u <:+ t ∨ ∃ w, u = w ++ t ∧ a :: w <:+ t' := by
  rcases suffix_append_cases h with h | ⟨_ | ⟨b, w⟩, hw, hsuffix⟩
  · exact .inl h
  · exact .inl (hw ▸ List.suffix_rfl)
  · obtain ⟨rfl, rfl⟩ := List.cons.inj hw
    exact .inr ⟨w, rfl, hsuffix⟩

namespace Session

variable (R : Resolver σ)

/-- The session after one more event. -/
def after : Event → Session σ → Session σ
  | .entered domain depth, s => { s with journal := .entered domain depth :: s.journal }
  | .asked q, s => { s with resolver := (R.ask q s.resolver).2, journal := .asked q :: s.journal }
  | .charged, s =>
    { s with
      budget := { s.budget with lookups := s.budget.lookups + 1 }
      journal := .charged :: s.journal }
  | .void, s => { s with budget := s.budget.recordVoid, journal := .void :: s.journal }

/-- Asking is one event. -/
lemma runFrom_ask (q : Query) (s : Session σ) :
    (Probe.ask R q).runFrom s = ((R.ask q s.resolver).1, after R (.asked q) s) := rfl

/-- Entering a level is one event. -/
lemma runFrom_enter (domain : Text) (depth : Nat) (s : Session σ) :
    (Check.enter domain depth).runFrom s = (.ok (), after R (.entered domain depth) s) := rfl

/-- A lookup is charged if one remains; otherwise nothing happens. -/
lemma runFrom_charge (s : Session σ) :
    Check.charge.runFrom s =
      if s.budget.lookups < s.budget.maxLookups then (.ok (), after R .charged s)
      else (.error (.lookupLimit s.budget.maxLookups), s) := by
  rw [Check.charge, Check.runFrom_get_bind, Budget.charge?]
  by_cases h : s.budget.lookups < s.budget.maxLookups
  · rw [if_pos h, if_pos h]
    rfl
  · rw [if_neg h, if_neg h]
    rfl

/-- An empty answer is counted in any case, and refused if none was left. -/
lemma runFrom_recordVoid (s : Session σ) :
    Check.recordVoid.runFrom s =
      if s.budget.voids < s.budget.maxVoids then (.ok (), after R .void s)
      else (.error (.voidLimit s.budget.maxVoids), after R .void s) := by
  have hrun : Check.recordVoid.runFrom s =
      (if s.budget.recordVoid.isVoidExceeded then throw (.voidLimit s.budget.maxVoids) else pure () :
        Check σ Unit).runFrom (after R .void s) := rfl
  have hexceeded : s.budget.recordVoid.isVoidExceeded = true ↔ ¬s.budget.voids < s.budget.maxVoids := by
    show decide (s.budget.maxVoids < s.budget.voids + 1) = true ↔ _
    rw [decide_eq_true_iff]
    omega
  rw [hrun]
  by_cases h : s.budget.voids < s.budget.maxVoids
  · rw [if_neg (by simp [hexceeded, h]), if_pos h]
    rfl
  · rw [if_pos (hexceeded.mpr h), if_neg h]
    rfl

/-- The session after a list of events, the last one first. -/
def replay (s : Session σ) (t : List Event) : Session σ :=
  t.foldr (after R) s

/-- Without events the session is as it was. -/
@[simp]
lemma replay_nil (s : Session σ) : s.replay R [] = s := rfl

/-- The last event is replayed after all others. -/
@[simp]
lemma replay_cons (s : Session σ) (e : Event) (t : List Event) :
    s.replay R (e :: t) = after R e (s.replay R t) := rfl

/-- Earlier events are replayed before later ones. -/
lemma replay_append (s : Session σ) (t u : List Event) :
    s.replay R (t ++ u) = (s.replay R u).replay R t :=
  List.foldr_append

/-- A replay adds its events to the journal. -/
lemma journal_replay (s : Session σ) (t : List Event) : (s.replay R t).journal = t ++ s.journal := by
  induction t with
  | nil => rfl
  | cons e t ih => cases e <;> simp only [replay_cons, after, ih, List.cons_append]

/-- A replay charges as many lookups as it has charges. -/
lemma lookups_replay (s : Session σ) (t : List Event) :
    (s.replay R t).budget.lookups = s.budget.lookups + t.count .charged := by
  induction t with
  | nil => rfl
  | cons e t ih => cases e <;> simp [after, Budget.recordVoid, ih, Nat.add_assoc]

/-- A replay counts as many empty answers as it has. -/
lemma voids_replay (s : Session σ) (t : List Event) :
    (s.replay R t).budget.voids = s.budget.voids + t.count .void := by
  induction t with
  | nil => rfl
  | cons e t ih => cases e <;> simp [after, Budget.recordVoid, ih, Nat.add_assoc]

/-- Events leave the limits alone. -/
lemma limits_replay (s : Session σ) (t : List Event) :
    (s.replay R t).budget.maxLookups = s.budget.maxLookups ∧
      (s.replay R t).budget.maxVoids = s.budget.maxVoids := by
  induction t with
  | nil => exact ⟨rfl, rfl⟩
  | cons e t ih => cases e <;> exact ih

/-- A replay sends the queries of its events, after those that were sent before. -/
lemma queries_replay (s : Session σ) (t : List Event) :
    (s.replay R t).queries = s.queries ++ (t.filterMap Event.query?).reverse := by
  simp only [queries, journal_replay, List.reverse_append, List.filterMap_append, List.filterMap_reverse]

/-- The query was sent among the events since a session, and had that answer. -/
def Exchanged (s : Session σ) (t : List Event) (q : Query) (answer : Answer q) : Prop :=
  ∃ u v, t = v ++ .asked q :: u ∧ (R.ask q (s.replay R u).resolver).1 = answer

variable {R} {s : Session σ} {t u : List Event} {q : Query} {answer : Answer q}

/-- What was answered stays so whatever happens later. -/
lemma Exchanged.append_left (h : s.Exchanged R t q answer) (u : List Event) : s.Exchanged R (u ++ t) q answer := by
  obtain ⟨w, v, rfl, hq⟩ := h
  exact ⟨w, u ++ v, (List.append_assoc u v _).symm, hq⟩

/-- What was answered after some events was answered since the session before them. -/
lemma Exchanged.append_right (h : (s.replay R t).Exchanged R u q answer) : s.Exchanged R (u ++ t) q answer := by
  obtain ⟨w, v, rfl, hq⟩ := h
  refine ⟨w ++ t, v, by rw [List.append_assoc, List.cons_append], ?_⟩
  rw [Session.replay_append]
  exact hq

end Session

/-- The resolver that keeps a log was asked exactly the queries of the session. -/
theorem Session.log_replay (R : Resolver σ) (s : Session (σ × List Query)) (t : List Event) :
    (s.replay R.logged t).resolver.2 = t.filterMap Event.query? ++ s.resolver.2 := by
  induction t with
  | nil => rfl
  | cons e t ih =>
    cases e with
    | asked q => exact congrArg (q :: ·) ih
    | entered domain depth => exact ih
    | charged => exact ih
    | void => exact ih

end SenderPolicy
