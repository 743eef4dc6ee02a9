import SenderPolicy.Text.Blank
import SenderPolicy.Text.Numeral

/-!
# Options

The limits of a check and the identities of the receiver. The defaults are those of the standard: ten terms
that query the DNS and two empty answers in one check.
-/

namespace SenderPolicy

/-- A span of time, in whole seconds and nanoseconds. -/
structure Duration where
  seconds : Nat
  nanoseconds : Nat
deriving DecidableEq

namespace Duration

/-- The whole milliseconds of a span. -/
def milliseconds (d : Duration) : Nat :=
  d.seconds * 1000 + d.nanoseconds / 1000000

/-- The nanoseconds of a span. -/
def total (d : Duration) : Nat :=
  d.seconds * 1000000000 + d.nanoseconds

/-- The span of a number of milliseconds. -/
def ofMilliseconds (n : Nat) : Duration :=
  ⟨n / 1000, n % 1000 * 1000000⟩

end Duration

/-- The limits of a check and the identities of the receiver. -/
structure Options where
  /-- Terms of one check that may query the DNS. -/
  maxLookups : Nat := 10
  /-- Empty answers that one check may meet. -/
  maxVoids : Nat := 2
  /-- Reverse names of the client that are looked at. -/
  maxPtrNames : Nat := 10
  /-- Mail exchanges that one name may have. -/
  maxExchanges : Nat := 10
  /-- Levels below the first that inclusions and redirections may reach. -/
  maxDepth : Nat := 10
  /-- The time a lookup may take, in milliseconds. -/
  timeout : Nat := 5000
  /-- The time an answer is kept, in seconds. -/
  cacheTtl : Option Nat := none
  /-- The name of the receiver. -/
  receiver : Option Text := none
  /-- The HELO identity of queries that give none. -/
  helo : Option Text := none
deriving DecidableEq

namespace Options

/-- An identity as options keep it: without blanks around it and dots at its end, in small letters; none if
nothing is left. -/
def identity? (t : Text) : Option Text :=
  let t := Text.dropDots (Text.trim t)
  if t.isEmpty then none else some (Text.lower t)

def withMaxLookups (n : Nat) (o : Options) : Options :=
  { o with maxLookups := n }

def withMaxVoids (n : Nat) (o : Options) : Options :=
  { o with maxVoids := n }

def withMaxPtrNames (n : Nat) (o : Options) : Options :=
  { o with maxPtrNames := n }

def withMaxDepth (n : Nat) (o : Options) : Options :=
  { o with maxDepth := n }

/-- The options with another time limit; a limit that no word holds becomes the largest one. -/
def withTimeout (d : Duration) (o : Options) : Options :=
  { o with timeout := min d.milliseconds Text.maxWord }

/-- The options with another time to keep answers, in whole seconds. -/
def withCacheTtl (d : Duration) (o : Options) : Options :=
  { o with cacheTtl := some d.seconds }

def withReceiver (t : Text) (o : Options) : Options :=
  { o with receiver := identity? t }

def withHelo (t : Text) (o : Options) : Options :=
  { o with helo := identity? t }

/-- What stands for the receiver in an explanation. -/
def receiverName (o : Options) : Text :=
  o.receiver.getD "unknown".toList

end Options

end SenderPolicy
