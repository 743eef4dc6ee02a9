import SenderPolicy.Text.Basic

/-!
# Decimal numerals

Natural numbers written in decimal digits. Two readers differ in what they admit: `numeral?` takes digits only,
`signedNumeral?` also a plus sign before them. Main statement: reading the numeral of a number gives the number
back.
-/

namespace SenderPolicy.Text

/-- The decimal numeral of a number, without leading zeros. -/
def ofNat (n : Nat) : Text :=
  Nat.toDigits 10 n

/-- The number that one or more decimal digits denote. -/
def numeral? (t : Text) : Option Nat :=
  if t ≠ [] ∧ t.all Char.isDigit then some (Nat.ofDigitChars 10 t 0) else none

/-- A numeral, possibly after one plus sign. -/
def signedNumeral? : Text → Option Nat
  | '+' :: t => numeral? t
  | t => numeral? t

/-- A numeral, possibly after one plus sign, of a number that is at most `most`. -/
def boundedNumeral? (most : Nat) (t : Text) : Option Nat :=
  (signedNumeral? t).filter (· ≤ most)

/-- The largest number of an unsigned word of 64 bits, the bound of every count a user may write. -/
def maxWord : Nat :=
  0xFFFFFFFFFFFFFFFF

/-- The numeral of a number is read back as that number. -/
theorem numeral?_ofNat (n : Nat) : numeral? (ofNat n) = some n := by
  have hall : (ofNat n).all Char.isDigit = true := by
    rw [List.all_eq_true]
    exact fun c hc => Nat.isDigit_of_mem_toDigits (by decide) (by decide) hc
  simp only [numeral?, hall, and_true]
  rw [if_pos (by exact Nat.toDigits_ne_nil)]
  exact congrArg some (Nat.ofDigitChars_toDigits (by decide) (by decide))

end SenderPolicy.Text
