import SenderPolicy.Text.Basic

/-!
# Hexadecimal digits

A digit of base sixteen as a character, in either case. Main statement: the digit of a number below sixteen is
read back as that number.
-/

namespace SenderPolicy.Text

/-- The small hexadecimal digit of a number below sixteen. -/
def hexDigit (n : Nat) : Char :=
  Nat.digitChar n

/-- The capital hexadecimal digit of a number below sixteen. -/
def capitalHexDigit (n : Nat) : Char :=
  (hexDigit n).toUpper

/-- The number that a hexadecimal digit of either case denotes. -/
def hexValue? (c : Char) : Option Nat :=
  if '0' ≤ c ∧ c ≤ '9' then some (c.toNat - '0'.toNat)
  else if 'a' ≤ c.toLower ∧ c.toLower ≤ 'f' then some (c.toLower.toNat - 'a'.toNat + 10)
  else none

/-- The number that hexadecimal digits denote, the most significant first. -/
def hexNumber? (t : Text) : Option Nat :=
  (t.mapM hexValue?).map fun ds => ds.foldl (fun n d => 16 * n + d) 0

/-- A small digit is read back as its number. -/
theorem hexValue?_hexDigit {n : Nat} (h : n < 16) : hexValue? (hexDigit n) = some n := by
  have hall : ∀ m, m < 16 → hexValue? (hexDigit m) = some m := by decide
  exact hall n h

/-- A capital digit is read back as its number. -/
theorem hexValue?_capitalHexDigit {n : Nat} (h : n < 16) : hexValue? (capitalHexDigit n) = some n := by
  have hall : ∀ m, m < 16 → hexValue? (capitalHexDigit m) = some m := by decide
  exact hall n h

end SenderPolicy.Text
