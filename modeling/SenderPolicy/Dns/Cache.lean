import SenderPolicy.Dns.Resolver

/-!
# Keeping answers

A resolver that keeps the answers of another one for a fixed time. Answers are kept by the key of their query, so
that all spellings of a name share one answer; a lookup that did not complete is asked again.

An expired answer is never given, but stays until it is replaced or dropped. When the answers of one type of
record grow past a threshold, the expired ones among them are dropped.

Times are nanoseconds. The clock is a parameter: it tells the time of each of its readings.
-/

namespace SenderPolicy

/-- The answer to a query, as the answer to its key. -/
def Answer.toKey : {q : Query} → Answer q → Answer q.key
  | .txt _, answer => answer
  | .a _, answer => answer
  | .aaaa _, answer => answer
  | .mx _, answer => answer
  | .ptr _, answer => answer

/-- The answer to the key of a query, as the answer to the query. -/
def Answer.ofKey : {q : Query} → Answer q.key → Answer q
  | .txt _, answer => answer
  | .a _, answer => answer
  | .aaaa _, answer => answer
  | .mx _, answer => answer
  | .ptr _, answer => answer

namespace Cache

def second : Nat :=
  1000000000

/-- The times that a clock can tell lie below this one: its seconds are a signed word of 64 bits. -/
def timeLimit : Nat :=
  0x8000000000000000 * second

/-- How a cache works. -/
structure Settings where
  /-- How long an answer is kept. -/
  ttl : Nat := 300 * second
  /-- How many answers of one type are kept before the expired ones are dropped. -/
  threshold : Nat := 10000
deriving DecidableEq

/-- An answer that is kept. -/
structure Entry where
  key : Query
  answer : Answer key
  expiry : Nat

def Entry.isFor (e : Entry) (q : Query) : Bool :=
  e.key == q.key

def Entry.isFresh (now : Nat) (e : Entry) : Bool :=
  now < e.expiry

/-- The answer of an entry to a query, if it is for the query and has not expired. -/
def Entry.answer? (e : Entry) (q : Query) (now : Nat) : Option (Answer q) :=
  if h : e.key = q.key then
    if e.isFresh now then some (Answer.ofKey (h ▸ e.answer)) else none
  else
    none

def find? (entries : List Entry) (q : Query) (now : Nat) : Option (Answer q) :=
  entries.findSome? (·.answer? q now)

/-- The entries with the answer to a query in place of an earlier one. -/
def insert (q : Query) (answer : Answer q) (expiry : Nat) (entries : List Entry) : List Entry :=
  ⟨q.key, answer.toKey, expiry⟩ :: entries.filter (!·.isFor q)

def purge (now : Nat) (entries : List Entry) : List Entry :=
  entries.filter (·.isFresh now)

/-- The entries without the expired ones of the type of a query, if there are too many of that type. -/
def sweep (threshold now : Nat) (q : Query) (entries : List Entry) : List Entry :=
  if threshold < entries.countP (·.key.sameType q) then
    entries.filter fun e => !e.key.sameType q || e.isFresh now
  else
    entries

end Cache

/-- The state of a resolver that keeps the answers of another. -/
structure Cache (σ : Type) where
  /-- The state of the other resolver. -/
  resolver : σ
  entries : List Cache.Entry
  /-- How often the clock was read. -/
  readings : Nat
  /-- The time at which some answer would expire is none that a clock can tell. What a cache does after that means
  nothing. -/
  hasOverrun : Bool

namespace Cache

variable {σ : Type}

/-- The cache that keeps no answers yet. -/
def empty (resolver : σ) : Cache σ :=
  ⟨resolver, [], 0, false⟩

/-- Keeps the answer to a query, if it is settled and answers are kept at all. -/
def keep (settings : Settings) (now : Nat) (q : Query) (answer : Answer q) (c : Cache σ) : Cache σ :=
  if answer.isSettled && settings.ttl != 0 then
    let expiry := now + settings.ttl
    if expiry < timeLimit then
      { c with entries := sweep settings.threshold now q (insert q answer expiry c.entries) }
    else
      { c with hasOverrun := true }
  else
    c

/-- Answers a query from what is kept, or else asks the other resolver and keeps its answer. The clock tells `now`
before the query is sent and `later` when its answer is there. -/
def ask (R : Resolver σ) (settings : Settings) (now later : Nat) (q : Query) (c : Cache σ) :
    Answer q × Cache σ :=
  match find? c.entries q now with
  | some answer => (answer, c)
  | none =>
    let (answer, next) := R.ask q c.resolver
    -- an answer is kept from the time it is there, not from the time it was asked for
    (answer, keep settings later q answer { c with resolver := next })

def purged (now : Nat) (c : Cache σ) : Cache σ :=
  { c with entries := purge now c.entries }

def cleared (c : Cache σ) : Cache σ :=
  { c with entries := [] }

end Cache

/-- The resolver that keeps the answers of another, by a clock. -/
def Resolver.cached {σ : Type} (R : Resolver σ) (settings : Cache.Settings) (clock : Nat → Nat) :
    Resolver (Cache σ) where
  ask q c :=
    let (answer, next) := c.ask R settings (clock c.readings) (clock (c.readings + 1)) q
    (answer, { next with readings := c.readings + 2 })

end SenderPolicy
