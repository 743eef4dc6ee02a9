import SenderPolicy.Text.Numeral

/-!
# The lookup budget

One check may charge a limited number of terms that query the DNS, and may meet a limited number of empty
answers. Both counters are shared by every level of the check. A charge above the limit is refused and not
counted; an empty answer above the limit is counted and then refused.
-/

namespace SenderPolicy

/-- The counters of one check and their limits. -/
structure Budget where
  lookups : Nat
  voids : Nat
  maxLookups : Nat
  maxVoids : Nat
deriving DecidableEq

namespace Budget

/-- The budget of a check that has not started. -/
def fresh (maxLookups maxVoids : Nat) : Budget :=
  ⟨0, 0, maxLookups, maxVoids⟩

def remaining (b : Budget) : Nat :=
  b.maxLookups - b.lookups

/-- The budget after one more lookup, if one remains. -/
def charge? (b : Budget) : Option Budget :=
  if b.lookups < b.maxLookups then some { b with lookups := b.lookups + 1 } else none

/-- The budget after one more empty answer. -/
def recordVoid (b : Budget) : Budget :=
  { b with voids := b.voids + 1 }

/-- More empty answers than the limit allows. -/
def isVoidExceeded (b : Budget) : Bool :=
  b.maxVoids < b.voids

/-- A lookup that is charged uses up one of those that remain. -/
theorem remaining_of_charge? {b b' : Budget} (h : b.charge? = some b') : b.remaining = b'.remaining + 1 := by
  simp only [charge?] at h
  split at h
  · cases h
    simp only [remaining]
    omega
  · cases h

end Budget

end SenderPolicy
