import SenderPolicy.Budget
import SenderPolicy.Dns.Resolver
import SenderPolicy.Failure

/-!
# The course of a check

A check in progress has the state of its resolver, its budget, and a journal of what happened so far: levels that
were entered, queries that were sent, lookups that were charged and empty answers that were counted. All of it
is kept when the check fails.

A `Probe` only asks the resolver and cannot fail; a `Check` may also use up the budget and may fail.
-/

namespace SenderPolicy

/-- What can happen in the course of a check. -/
inductive Event where
  /-- The evaluation of a domain's policy began, so many levels below the first. -/
  | entered (domain : Text) (depth : Nat)
  /-- A query was sent to the resolver. -/
  | asked (query : Query)
  /-- A lookup was charged. -/
  | charged
  /-- An empty answer was counted. -/
  | void
deriving DecidableEq

def Event.query? : Event → Option Query
  | asked q => some q
  | _ => none

/-- A check in progress. The journal has the last event first. -/
structure Session (σ : Type) where
  resolver : σ
  budget : Budget
  journal : List Event

namespace Session

/-- The check that has not started, with a resolver in the given state. -/
def start {σ : Type} (budget : Budget) (resolver : σ) : Session σ :=
  ⟨resolver, budget, []⟩

/-- The queries sent so far, the first one first. -/
def queries {σ : Type} (s : Session σ) : List Query :=
  s.journal.reverse.filterMap Event.query?

end Session

/-- A step that asks the resolver and cannot fail. -/
abbrev Probe (σ : Type) (α : Type) : Type :=
  StateM (Session σ) α

/-- A step that may fail. The session that it leaves behind is kept in either case. -/
abbrev Check (σ : Type) (α : Type) : Type :=
  ExceptT Failure (StateM (Session σ)) α

variable {σ : Type}

def Probe.ask (R : Resolver σ) (q : Query) : Probe σ (Answer q) := fun s =>
  let (answer, next) := R.ask q s.resolver
  (answer, { s with resolver := next, journal := .asked q :: s.journal })

namespace Check

/-- The outcome of a check that starts in a session, and the session it ends in. -/
def runFrom {α : Type} (s : Session σ) (c : Check σ α) : Except Failure α × Session σ :=
  StateT.run (ExceptT.run c) s

/-- Begins the evaluation of a domain's policy, so many levels below the first. -/
def enter (domain : Text) (depth : Nat) : Check σ Unit :=
  modify fun s => { s with journal := .entered domain depth :: s.journal }

/-- Charges one lookup, or fails if none remains. -/
def charge : Check σ Unit := do
  let s ← get
  match s.budget.charge? with
  | some budget => set { s with budget := budget, journal := .charged :: s.journal }
  | none => throw (.lookupLimit s.budget.maxLookups)

/-- Counts one empty answer, and fails if there are now more than the limit allows. -/
def recordVoid : Check σ Unit := do
  let s ← get
  let budget := s.budget.recordVoid
  -- the answer that exceeds the limit is counted, too
  set { s with budget := budget, journal := .void :: s.journal }
  if budget.isVoidExceeded then throw (.voidLimit budget.maxVoids)

end Check

end SenderPolicy
