import Mathlib.Tactic.Lemma
import SenderPolicy.Text.Bytes

/-!
# Places among the bytes of a text

The bytes of a text are those of its characters in a row, and they tell the text (`bytes_injective`). A byte below 128
stands for a character by itself, since a character of several bytes has none that is so small
(`getElem?_bytes_iff`). A text can be cut at a place among its bytes only where a character starts or the text ends
(`fromByte?_eq_some_iff`).
-/

namespace SenderPolicy.Text

variable {b : UInt8} {c : Char} {i : Nat} {s t u v : Text}

/-- The bytes of the first character come first. -/
lemma bytes_cons (c : Char) (t : Text) : bytes (c :: t) = String.utf8EncodeChar c ++ bytes t :=
  List.flatMap_cons

/-- The bytes of texts in a row are in a row. -/
lemma bytes_append (s t : Text) : bytes (s ++ t) = bytes s ++ bytes t :=
  List.flatMap_append

/-- Texts in a row have the bytes of both. -/
lemma byteLength_append (s t : Text) : byteLength (s ++ t) = byteLength s + byteLength t := by
  rw [← length_bytes, ← length_bytes, ← length_bytes, bytes_append, List.length_append]

/-- A text that is not empty has a byte. -/
lemma byteLength_pos (hne : t ≠ []) : 0 < byteLength t := by
  obtain ⟨c, t, rfl⟩ := List.exists_cons_of_ne_nil hne
  have hsize := Char.utf8Size_pos c
  rw [byteLength]
  omega

/-- The end of a text has no more bytes than the text. -/
lemma byteLength_le_of_suffix (h : t <:+ s) : byteLength t ≤ byteLength s := by
  obtain ⟨front, rfl⟩ := h
  rw [byteLength_append]
  exact Nat.le_add_left _ _

/-- The end of a text that has as many bytes is all of it. -/
lemma eq_of_suffix_of_byteLength_le (h : t <:+ s) (hle : byteLength s ≤ byteLength t) : t = s := by
  obtain ⟨front, rfl⟩ := h
  cases front with
  | nil => rfl
  | cons c front =>
    have hpos := byteLength_pos (List.cons_ne_nil c front)
    rw [byteLength_append] at hle
    omega

/-- A text is read back from its bytes. -/
lemma ofBytes?_bytes (t : Text) : ofBytes? (bytes t) = some t := by
  have hbytes : (⟨(bytes t).toArray⟩ : ByteArray) = t.utf8Encode := by
    refine ByteArray.ext ?_
    rw [List.utf8Encode, List.data_toByteArray]
    rfl
  have hread : String.fromUTF8? ⟨(bytes t).toArray⟩ = some (String.ofList t) := by
    rw [hbytes, String.fromUTF8?, dif_pos ⟨t, rfl⟩]
    rfl
  rw [ofBytes?, hread, Option.map_some, String.toList_ofList]

/-- No two texts have the same bytes. -/
lemma bytes_injective : Function.Injective bytes := by
  intro s t h
  have hread := congrArg ofBytes? h
  rwa [ofBytes?_bytes, ofBytes?_bytes, Option.some_inj] at hread

/-! ## Small bytes -/

/-- A character of ASCII is one byte. -/
lemma utf8EncodeChar_of_isAscii (hc : isAscii c = true) : String.utf8EncodeChar c = [UInt8.ofNat c.toNat] := by
  have hlt : c.toNat < 128 := of_decide_eq_true hc
  rw [String.utf8EncodeChar]
  exact if_pos (Nat.le_of_lt_succ hlt)

/-- No byte of any other character is below 128. -/
lemma le_of_mem_utf8EncodeChar (hc : isAscii c = false) (hb : b ∈ String.utf8EncodeChar c) : 128 ≤ b.toNat := by
  have hlarge : ¬c.val.toNat ≤ 127 := fun h => of_decide_eq_false hc (Nat.lt_succ_of_le h)
  rw [String.utf8EncodeChar, if_neg hlarge] at hb
  -- the leading byte is 192 or more, and those that go on with it are 128 or more
  split at hb
  · simp only [List.mem_cons, List.not_mem_nil, or_false] at hb
    rcases hb with rfl | rfl
    all_goals
      rw [UInt8.toNat_ofNat']
      omega
  · split at hb
    · simp only [List.mem_cons, List.not_mem_nil, or_false] at hb
      rcases hb with rfl | rfl | rfl
      all_goals
        rw [UInt8.toNat_ofNat']
        omega
    · simp only [List.mem_cons, List.not_mem_nil, or_false] at hb
      rcases hb with rfl | rfl | rfl | rfl
      all_goals
        rw [UInt8.toNat_ofNat']
        omega

/-- Characters of ASCII with the same byte are the same. -/
lemma eq_of_ofNat_eq {d : Char} (hc : isAscii c = true) (hd : isAscii d = true)
    (h : UInt8.ofNat c.toNat = UInt8.ofNat d.toNat) : c = d := by
  have hclt : c.toNat < 128 := of_decide_eq_true hc
  have hdlt : d.toNat < 128 := of_decide_eq_true hd
  have hvalue := congrArg UInt8.toNat h
  rw [UInt8.toNat_ofNat', UInt8.toNat_ofNat', Nat.mod_eq_of_lt (by omega), Nat.mod_eq_of_lt (by omega)] at hvalue
  rw [← Char.ofNat_toNat c, hvalue, Char.ofNat_toNat]

/-- A character of ASCII has its byte among those of a character only if it is that character. -/
lemma ofNat_mem_utf8EncodeChar_iff {d : Char} (hc : isAscii c = true) :
    UInt8.ofNat c.toNat ∈ String.utf8EncodeChar d ↔ d = c := by
  constructor
  · intro hmem
    cases hd : isAscii d with
    | true =>
      rw [utf8EncodeChar_of_isAscii hd, List.mem_singleton] at hmem
      exact (eq_of_ofNat_eq hc hd hmem).symm
    | false =>
      have hlt : c.toNat < 128 := of_decide_eq_true hc
      have hle := le_of_mem_utf8EncodeChar hd hmem
      rw [UInt8.toNat_ofNat'] at hle
      omega
  · rintro rfl
    rw [utf8EncodeChar_of_isAscii hc]
    exact List.mem_singleton_self _

/-- The byte of a character of ASCII stands at a place exactly if the character stands behind as many bytes. -/
lemma getElem?_bytes_iff (hc : isAscii c = true) :
    (bytes t)[i]? = some (UInt8.ofNat c.toNat) ↔ ∃ s u, t = s ++ c :: u ∧ byteLength s = i := by
  constructor
  · intro h
    induction t generalizing i with
    | nil => cases h
    | cons d t ih =>
      rw [bytes_cons] at h
      by_cases hi : i < (String.utf8EncodeChar d).length
      · rw [List.getElem?_append_left hi] at h
        -- among the bytes of the first character, so that character is it
        obtain rfl := (ofNat_mem_utf8EncodeChar_iff hc).mp (List.mem_of_getElem? h)
        rw [utf8EncodeChar_of_isAscii hc, List.length_singleton, Nat.lt_one_iff] at hi
        exact ⟨[], t, rfl, hi.symm⟩
      · rw [List.getElem?_append_right (Nat.le_of_not_lt hi)] at h
        obtain ⟨s, u, rfl, hs⟩ := ih h
        rw [String.length_utf8EncodeChar] at hi hs
        refine ⟨d :: s, u, rfl, ?_⟩
        rw [byteLength]
        omega
  · rintro ⟨s, u, rfl, rfl⟩
    rw [bytes_append, bytes_cons, utf8EncodeChar_of_isAscii hc, ← length_bytes,
      List.getElem?_append_right (Nat.le_refl _), Nat.sub_self]
    rfl

/-! ## Cuts among the bytes -/

/-- The text from a place among its bytes on, if a character starts or the text ends there. -/
def fromByte? : Nat → Text → Option Text
  | 0, t => some t
  | _ + 1, [] => none
  | i + 1, c :: t => if c.utf8Size ≤ i + 1 then fromByte? (i + 1 - c.utf8Size) t else none

/-- A text is cut behind characters that have as many bytes as the place says. -/
lemma fromByte?_eq_some_iff : fromByte? i t = some u ↔ ∃ s, t = s ++ u ∧ byteLength s = i := by
  constructor
  · intro h
    induction t generalizing i with
    | nil =>
      cases i with
      | zero => exact ⟨[], Option.some.inj h, rfl⟩
      | succ i => cases h
    | cons c t ih =>
      cases i with
      | zero => exact ⟨[], Option.some.inj h, rfl⟩
      | succ i =>
        rw [fromByte?, Option.ite_none_right_eq_some] at h
        obtain ⟨hle, hcut⟩ := h
        obtain ⟨s, rfl, hs⟩ := ih hcut
        refine ⟨c :: s, rfl, ?_⟩
        rw [byteLength]
        omega
  · rintro ⟨s, rfl, rfl⟩
    induction s with
    | nil =>
      rw [byteLength, List.nil_append]
      exact fromByte?.eq_1 u
    | cons c s ih =>
      -- a character has at least one byte, so the place is not the first one
      obtain ⟨n, hn⟩ : ∃ n, byteLength (c :: s) = n + 1 :=
        Nat.exists_eq_add_one.mpr (byteLength_pos (List.cons_ne_nil c s))
      have hsize : c.utf8Size + byteLength s = n + 1 := hn
      rw [hn, List.cons_append, fromByte?, if_pos (by omega), ← hsize, Nat.add_sub_cancel_left, ih]

end SenderPolicy.Text
