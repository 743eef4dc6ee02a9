import Mathlib.Data.List.Induction
import Mathlib.Tactic.Lemma
import SenderPolicy.Text.Hex
import SenderPolicy.Text.Numeral

/-!
# Numerals of a number

The digits of a number in a base up to sixteen, and that the readers of decimal and of hexadecimal numerals give
the number back. A decimal numeral that is read is the one of its number, but for zeros before it
(`numeral?_eq_some_iff`).
-/

namespace SenderPolicy.Text

variable {b n most : Nat} {c : Char} {t : Text}

/-! ## Digits -/

/-- A digit of a number is that of some number below the base. -/
lemma exists_of_mem_toDigits (hb : 1 < b) (hc : c ∈ Nat.toDigits b n) : ∃ d, d < b ∧ c = Nat.digitChar d := by
  induction n using Nat.strongRecOn with
  | ind n ih =>
    by_cases hn : n < b
    · rw [Nat.toDigits_of_lt_base hn, List.mem_singleton] at hc
      exact ⟨n, hn, hc⟩
    · have hpos : 0 < n := by omega
      rw [Nat.toDigits_of_base_le hb (by omega), List.mem_append, List.mem_singleton] at hc
      rcases hc with hc | hc
      · exact ih (n / b) (Nat.div_lt_self hpos hb) hc
      · exact ⟨n % b, Nat.mod_lt n (by omega), hc⟩

/-- The first digit of a positive number is not zero. -/
lemma head?_toDigits (hb : 1 < b) (hn : 0 < n) : (Nat.toDigits b n).head? ≠ some '0' := by
  induction n using Nat.strongRecOn with
  | ind n ih =>
    by_cases hlt : n < b
    · rw [Nat.toDigits_of_lt_base hlt, List.head?_cons, ne_eq, Option.some.injEq, Nat.digitChar_eq_zero]
      omega
    · have hpos : 0 < n / b := Nat.div_pos (by omega) (by omega)
      have hdiv := ih (n / b) (Nat.div_lt_self hn hb) hpos
      obtain ⟨c, t, hc⟩ := List.exists_cons_of_ne_nil (Nat.toDigits_ne_nil (b := b) (n := n / b))
      rw [hc] at hdiv
      rwa [Nat.toDigits_of_base_le hb (by omega), hc]

/-- The digits in a base up to sixteen are letters and digits. -/
lemma isAlphanum_of_mem_toDigits (hb : 1 < b) (hle : b ≤ 16) (hc : c ∈ Nat.toDigits b n) : c.isAlphanum := by
  obtain ⟨d, hd, rfl⟩ := exists_of_mem_toDigits hb hc
  have hall : ∀ d, d < 16 → (Nat.digitChar d).isAlphanum := by decide
  exact hall d (by omega)

/-! ## Decimal numerals -/

/-- Every number has a numeral. -/
lemma ofNat_ne_nil (n : Nat) : ofNat n ≠ [] :=
  Nat.toDigits_ne_nil

/-- A numeral has decimal digits only. -/
lemma isDigit_of_mem_ofNat (hc : c ∈ ofNat n) : c.isDigit :=
  Nat.isDigit_of_mem_toDigits (by decide) (by decide) hc

/-- Only the numeral of zero starts with a zero. -/
lemma length_ofNat_le (h : (ofNat n).head? = some '0') : (ofNat n).length ≤ 1 := by
  cases n with
  | zero => decide
  | succ n => exact absurd h (head?_toDigits (by decide) (Nat.succ_pos n))

/-- A numeral is read back also where a sign may stand before it. -/
lemma signedNumeral?_ofNat (n : Nat) : signedNumeral? (ofNat n) = some n := by
  rw [signedNumeral?.eq_def]
  split
  · next t ht =>
    have hplus : '+' ∈ ofNat n := ht ▸ List.mem_cons_self
    exact absurd (isDigit_of_mem_ofNat hplus) (by decide)
  · exact numeral?_ofNat n

/-- A numeral is read back if its number is within the bound. -/
lemma boundedNumeral?_ofNat (h : n ≤ most) : boundedNumeral? most (ofNat n) = some n := by
  rw [boundedNumeral?, signedNumeral?_ofNat, Option.filter_some, if_pos (by simpa using h)]

/-- A number that was read is within the bound. -/
lemma le_of_boundedNumeral? (h : boundedNumeral? most t = some n) : n ≤ most := by
  rw [boundedNumeral?, Option.filter_eq_some_iff] at h
  simpa using h.2

/-- A decimal digit is that of a number below ten, which it denotes. -/
lemma exists_digitChar_of_isDigit (hc : c.isDigit) : ∃ d, d < 10 ∧ c.toNat - '0'.toNat = d ∧ c = Nat.digitChar d := by
  obtain ⟨hlow, hhigh⟩ := Char.isDigit_iff_toNat.mp hc
  have hall : ∀ n, n < 58 → 48 ≤ n → n - 48 < 10 ∧ Char.ofNat n = Nat.digitChar (n - 48) := by decide
  obtain ⟨hlt, hdigit⟩ := hall c.toNat (Nat.lt_succ_of_le hhigh) hlow
  rw [Char.ofNat_toNat] at hdigit
  exact ⟨_, hlt, rfl, hdigit⟩

/-- Digits are the numeral of the number that they denote, after any zeros. -/
lemma exists_zeros_of_digits (hne : t ≠ []) (hdigits : ∀ c ∈ t, c.isDigit) :
    ∃ zeros, t = List.replicate zeros '0' ++ ofNat (Nat.ofDigitChars 10 t 0) := by
  -- the last digit is the last of the numeral, so the induction is from the end
  induction t using List.reverseRecOn with
  | nil => exact absurd rfl hne
  | append_singleton t c ih =>
    have hc : c.isDigit := hdigits c (List.mem_append_right t (List.mem_singleton_self c))
    obtain ⟨d, hd, hvalue, hchar⟩ := exists_digitChar_of_isDigit hc
    rw [Nat.ofDigitChars_append, Nat.ofDigitChars_cons, Nat.ofDigitChars_nil, hvalue, hchar]
    by_cases ht : t = []
    · refine ⟨0, ?_⟩
      rw [ht, Nat.ofDigitChars_nil, ofNat, Nat.mul_zero, Nat.zero_add, Nat.toDigits_of_lt_base hd]
      rfl
    · obtain ⟨zeros, hzeros⟩ := ih ht fun e he => hdigits e (List.mem_append_left _ he)
      rcases Nat.eq_zero_or_pos (Nat.ofDigitChars 10 t 0) with hzero | hpos
      · rw [hzero] at hzeros ⊢
        refine ⟨zeros + 1, ?_⟩
        rw [hzeros, Nat.mul_zero, Nat.zero_add, ofNat, ofNat, Nat.toDigits_of_lt_base hd, List.replicate_succ']
        rfl
      · generalize Nat.ofDigitChars 10 t 0 = m at hzeros hpos ⊢
        refine ⟨zeros, ?_⟩
        have hdiv : (10 * m + d) / 10 = m := by omega
        have hmod : (10 * m + d) % 10 = d := by omega
        rw [ofNat, Nat.toDigits_of_base_le (by decide) (by omega), hdiv, hmod, hzeros, ofNat, List.append_assoc]

/-- What is read as a number is its numeral after any zeros. -/
lemma numeral?_eq_some_iff : numeral? t = some n ↔ ∃ zeros, t = List.replicate zeros '0' ++ ofNat n := by
  constructor
  · intro h
    rw [numeral?] at h
    split at h
    · next hdigits =>
      obtain rfl := Option.some.inj h
      exact exists_zeros_of_digits hdigits.1 (List.all_eq_true.mp hdigits.2)
    · cases h
  · rintro ⟨zeros, rfl⟩
    have hne : List.replicate zeros '0' ++ ofNat n ≠ [] := List.append_ne_nil_of_right_ne_nil _ (ofNat_ne_nil n)
    have hdigits : ∀ c ∈ List.replicate zeros '0' ++ ofNat n, c.isDigit := by
      intro c hc
      rcases List.mem_append.mp hc with hc | hc
      · rw [List.eq_of_mem_replicate hc]
        decide
      · exact isDigit_of_mem_ofNat hc
    have hvalue : Nat.ofDigitChars 10 (ofNat n) 0 = n := Nat.ofDigitChars_toDigits (by decide) (by decide)
    rw [numeral?, if_pos ⟨hne, List.all_eq_true.mpr hdigits⟩, Nat.ofDigitChars_append,
      Nat.ofDigitChars_replicate_zero, Nat.mul_zero, hvalue]

/-- Digits of which the first is a zero only if it is the last are the numeral of their number. -/
lemma eq_ofNat_of_numeral? (h : numeral? t = some n) (hzero : ¬ (1 < t.length ∧ t.head? = some '0')) :
    t = ofNat n := by
  obtain ⟨zeros, rfl⟩ := numeral?_eq_some_iff.mp h
  cases zeros with
  | zero => rfl
  | succ zeros =>
    have hlength := List.length_pos_iff.mpr (ofNat_ne_nil n)
    refine absurd ⟨?_, rfl⟩ hzero
    rw [List.length_append, List.length_replicate]
    omega

/-! ## Hexadecimal numerals -/

/-- Digits that one more follows denote sixteen times their number and the digit. -/
lemma hexNumber?_append {m : Nat} (ht : hexNumber? t = some m) (hn : n < 16) :
    hexNumber? (t ++ [hexDigit n]) = some (16 * m + n) := by
  rw [hexNumber?, Option.map_eq_some_iff] at ht ⊢
  obtain ⟨ds, hds, rfl⟩ := ht
  refine ⟨ds ++ [n], ?_, by simp⟩
  simp [List.mapM_append, hds, hexValue?_hexDigit hn]

/-- The hexadecimal digits of a number denote it. -/
lemma hexNumber?_toDigits (n : Nat) : hexNumber? (Nat.toDigits 16 n) = some n := by
  induction n using Nat.strongRecOn with
  | ind n ih =>
    by_cases hn : n < 16
    · rw [Nat.toDigits_of_lt_base hn]
      have hdigit := hexNumber?_append (t := []) (m := 0) rfl hn
      rwa [Nat.mul_zero, Nat.zero_add] at hdigit
    · rw [Nat.toDigits_of_base_le (by decide) (by omega)]
      have hdiv := ih (n / 16) (by omega)
      have happend := hexNumber?_append hdiv (Nat.mod_lt n (by decide))
      rwa [Nat.div_add_mod] at happend

end SenderPolicy.Text
