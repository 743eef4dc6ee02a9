import Mathlib.Data.List.Sigma
import Mathlib.Tactic.Ring
import SenderPolicy.Idna.Punycode
import SenderPolicy.Proofs.Records
import SenderPolicy.Proofs.Words

/-!
# Punycode is read back

The Punycode of a text is ASCII, and the text is read back from it (`decode?_encode`), if the text is short enough for
every number in it to be read. A number is read digit by digit. The reader inserts the characters of the text in the
order in which the writer went through them, so at any time it holds the text without those that are still to come
(`decodeFrom_encodeFrom`).
-/

namespace SenderPolicy.Idna.Punycode

variable {t : Text} {c : Char} {x y : Char × Nat}

/-! ## Characters -/

/-- A number is written in digits. -/
lemma exists_digitChar_of_mem_numberDigits {bias place n : Nat} (hc : c ∈ numberDigits bias place n) :
    ∃ d < 36, c = digitChar d := by
  induction place, n using numberDigits.induct bias with
  | case1 place n t h =>
    have ht := threshold_bounds bias place
    rw [numberDigits, if_pos h, List.mem_singleton] at hc
    exact ⟨n, by omega, hc⟩
  | case2 place n t h ih =>
    have ht := threshold_bounds bias place
    rw [numberDigits, if_neg h, List.mem_cons] at hc
    rcases hc with rfl | hc
    · have hspan : 0 < base - threshold bias place := by
        rw [base]
        omega
      have hdigit := Nat.mod_lt (n - threshold bias place) hspan
      refine ⟨_, ?_, rfl⟩
      rw [base] at hdigit ⊢
      omega
    · exact ih hc

/-- Insertions are written in digits. -/
lemma exists_digitChar_of_mem_encodeFrom {xs : List Insertion} {bias code place length : Nat} {isFirst : Bool}
    (hc : c ∈ encodeFrom bias code place length isFirst xs) : ∃ d < 36, c = digitChar d := by
  induction xs generalizing bias code place length isFirst with
  | nil => cases hc
  | cons x xs ih =>
    rw [encodeFrom, List.mem_append] at hc
    rcases hc with hc | hc
    · exact exists_digitChar_of_mem_numberDigits hc
    · exact ih hc

/-- Punycode holds the ASCII characters of the text, a hyphen and digits. -/
lemma of_mem_encode (hc : c ∈ encode t) : c ∈ t ∧ Text.isAscii c = true ∨ c = '-' ∨ ∃ d < 36, c = digitChar d := by
  rw [encode, List.mem_append] at hc
  rcases hc with hc | hc
  · split at hc
    · cases hc
    · rcases List.mem_append.mp hc with hc | hc
      · exact .inl (List.mem_filter.mp hc)
      · exact .inr (.inl (List.mem_singleton.mp hc))
  · exact .inr (.inr (exists_digitChar_of_mem_encodeFrom hc))

/-- Digits are ASCII. -/
lemma isAscii_digitChar {d : Nat} (h : d < 36) : Text.isAscii (digitChar d) = true := by
  have hall : ∀ d, d < 36 → Text.isAscii (digitChar d) = true := by decide
  exact hall d h

/-- Punycode is ASCII. -/
lemma isAscii_of_mem_encode (hc : c ∈ encode t) : Text.isAscii c = true := by
  rcases of_mem_encode hc with ⟨-, hascii⟩ | rfl | ⟨d, hd, rfl⟩
  · exact hascii
  · rfl
  · exact isAscii_digitChar hd

/-! ## Numbers -/

/-- The largest number that is read for certain: no digit of it counts more than a word holds. -/
def maxNumber : Nat := maxWeight / base

/-- A digit is read back from its character. -/
lemma digit?_digitChar {d : Nat} (h : d < 36) : digit? (digitChar d) = some d := by
  have hall : ∀ d, d < 36 → digit? (digitChar d) = some d := by decide
  exact hall d h

/-- A number is read from its digits, whatever follows them. -/
lemma decodeFrom_numberDigits {n : Nat} {r : Reader} (rest : Text) (h : r.number + n * r.weight ≤ maxNumber) :
    decodeFrom r (numberDigits r.bias r.digitPlace n ++ rest) =
      (r.insert? (r.number + n * r.weight)).bind (decodeFrom · rest) := by
  obtain ⟨bias, code, place, isFirst, made, number, weight, digitPlace⟩ := r
  dsimp only at h ⊢
  induction digitPlace, n using numberDigits.induct bias generalizing number weight with
  | case1 digitPlace n t hlast =>
    have ht := threshold_bounds bias digitPlace
    rw [numberDigits, if_pos hlast, List.singleton_append, decodeFrom, digit?_digitChar (by omega)]
    dsimp only [Option.bind_eq_bind, Option.bind_some]
    rw [if_pos hlast]
  | case2 digitPlace n t hmore ih =>
    -- what remains of the number counts by the next weight, so that the sum stays the same
    obtain ⟨ht, ht'⟩ : 1 ≤ t ∧ t ≤ 26 := threshold_bounds bias digitPlace
    have hspan : 0 < base - t := by rw [base]; omega
    have hmod : (n - t) % (base - t) < base - t := Nat.mod_lt _ hspan
    have hdigit : t + (n - t) % (base - t) < 36 := by rw [base] at hmod ⊢; omega
    have hnumber : number + (t + (n - t) % (base - t)) * weight + (n - t) / (base - t) * (weight * (base - t)) =
        number + n * weight := by
      have hn : t + (n - t) % (base - t) + (n - t) / (base - t) * (base - t) = n := by
        have := Nat.mod_add_div' (n - t) (base - t)
        omega
      calc
        _ = number + (t + (n - t) % (base - t) + (n - t) / (base - t) * (base - t)) * weight := by ring
        _ = number + n * weight := by rw [hn]
    have hweight : weight * (base - t) ≤ maxWeight := by
      -- there is more to read, so the weight is no greater than the number, which is small enough
      have hone : weight ≤ n * weight := Nat.le_mul_of_pos_left weight (by omega)
      calc
        weight * (base - t) ≤ maxNumber * base := Nat.mul_le_mul (by omega) (Nat.sub_le _ _)
        _ ≤ maxWeight := Nat.div_mul_le_self _ _
    rw [numberDigits, if_neg hmore, List.cons_append, decodeFrom, digit?_digitChar hdigit]
    dsimp only [Option.bind_eq_bind, Option.bind_some]
    rw [if_neg (Nat.not_lt.mpr (Nat.le_add_right t _)), if_neg (Nat.not_lt.mpr hweight)]
    have hrest := ih (number + (t + (n - t) % (base - t)) * weight) (weight * (base - t)) (hnumber.symm ▸ h)
    rw [hnumber] at hrest
    exact hrest

/-- The number of an insertion is read whole, and the insertion is made. -/
lemma decodeFrom_begin {n bias code place : Nat} {isFirst : Bool} {made : Text} (rest : Text) (h : n ≤ maxNumber) :
    decodeFrom (.begin bias code place isFirst made) (numberDigits bias base n ++ rest) =
      ((Reader.begin bias code place isFirst made).insert? n).bind (decodeFrom · rest) := by
  have hread := decodeFrom_numberDigits (r := .begin bias code place isFirst made) (n := n) rest
  simp only [Reader.begin, Nat.zero_add, Nat.mul_one] at hread
  exact hread h

/-- A reader that reads the number of an insertion makes it. -/
lemma insert?_number {r : Reader} {place : Nat} (hcode : r.code ≤ c.toNat) (hplace : place ≤ r.made.length)
    (hnext : r.code < c.toNat ∨ r.place ≤ place) (hr : r.place ≤ r.made.length) :
    let n := (c.toNat - r.code) * (r.made.length + 1) + place - r.place
    r.insert? n = some (.begin (adapt r.isFirst (r.made.length + 1) n) c.toNat (place + 1) false
      (r.made.take place ++ c :: r.made.drop place)) := by
  intro n
  -- the insertion is further on than the reader, so nothing is cut off from the difference
  have hn : r.place + n = place + (r.made.length + 1) * (c.toNat - r.code) := by
    have hle : r.place ≤ (c.toNat - r.code) * (r.made.length + 1) + place := by
      rcases hnext with hlt | hle
      · have hstep : 1 * (r.made.length + 1) ≤ (c.toNat - r.code) * (r.made.length + 1) :=
          Nat.mul_le_mul_right _ (by omega)
        omega
      · omega
    rw [Nat.mul_comm]
    omega
  have hspan : 0 < r.made.length + 1 := Nat.succ_pos _
  have hquotient : r.code + (r.place + n) / (r.made.length + 1) = c.toNat := by
    rw [hn, Nat.add_mul_div_left _ _ hspan, Nat.div_eq_of_lt (Nat.lt_succ_of_le hplace)]
    omega
  have hremainder : (r.place + n) % (r.made.length + 1) = place := by
    rw [hn, Nat.add_mul_mod_self_left, Nat.mod_eq_of_lt (Nat.lt_succ_of_le hplace)]
  rw [Reader.insert?]
  simp only [hquotient, hremainder, Char.ofNat_toNat]
  exact if_pos c.valid

/-! ## Insertions -/

/-- The order in which characters are inserted, by code point and place. -/
def inOrder (x y : Char × Nat) : Bool :=
  x.1.toNat < y.1.toNat || (x.1.toNat == y.1.toNat && x.2 ≤ y.2)

/-- Characters are in order by code point, and by place if they are the same. -/
lemma inOrder_iff : inOrder x y = true ↔ x.1.toNat < y.1.toNat ∨ x.1 = y.1 ∧ x.2 ≤ y.2 := by
  simp [inOrder, Char.toNat_inj]

instance : Std.Total fun x y => inOrder x y = true where
  total x y := by
    rw [inOrder_iff, inOrder_iff]
    rcases Nat.lt_trichotomy x.1.toNat y.1.toNat with h | h | h
    · exact .inl (.inl h)
    · have heq := Char.toNat_inj.mp h
      exact (Nat.le_total x.2 y.2).imp (fun hle => .inr ⟨heq, hle⟩) fun hle => .inr ⟨heq.symm, hle⟩
    · exact .inr (.inl h)

instance : IsTrans (Char × Nat) fun x y => inOrder x y = true where
  trans x y z hxy hyz := by
    rw [inOrder_iff] at hxy hyz ⊢
    rcases hxy with hxy | ⟨hxy, hxy'⟩
    · rcases hyz with hyz | ⟨hyz, -⟩
      · exact .inl (hxy.trans hyz)
      · exact .inl (hyz ▸ hxy)
    · rw [hxy]
      exact hyz.imp_right fun ⟨hyz, hyz'⟩ => ⟨hyz, hxy'.trans hyz'⟩

/-- The characters of a text that are inserted, with their places, in order. -/
def toInsert (t : Text) : List (Char × Nat) :=
  Sorting.sort inOrder (t.zipIdx.filter fun x => !Text.isAscii x.1)

/-- The insertion of a character of a text. -/
def insertion (t : Text) (x : Char × Nat) : Insertion :=
  ⟨x.1.toNat, (t.take x.2).countP fun d => d.toNat ≤ x.1.toNat⟩

/-- The insertions of a text are those of its characters that are inserted, in order. -/
lemma insertions_eq (t : Text) : insertions t = (toInsert t).map (insertion t) := rfl

/-- The characters that are inserted are those that are not ASCII. -/
lemma mem_toInsert : x ∈ toInsert t ↔ x ∈ t.zipIdx ∧ Text.isAscii x.1 = false := by
  rw [toInsert, (Sorting.sort_perm _ _).mem_iff, List.mem_filter, Bool.not_eq_true']

/-- A character of a text stands between what is before it and what is after it. -/
lemma exists_of_mem_zipIdx (hx : x ∈ t.zipIdx) : ∃ a b, t = a ++ x.1 :: b ∧ a.length = x.2 := by
  obtain ⟨hlt, hget⟩ := List.getElem?_eq_some_iff.mp (List.mem_zipIdx_iff_getElem?.mp hx)
  refine ⟨t.take x.2, t.drop (x.2 + 1), ?_, List.length_take_of_le hlt.le⟩
  rw [← hget, List.getElem_cons_drop, List.take_append_drop]

/-- The first character is inserted before the second. -/
def Earlier (x y : Char × Nat) : Prop :=
  x.1.toNat < y.1.toNat ∨ x.1 = y.1 ∧ x.2 < y.2

/-- No two of the characters that are inserted have one place, so their order is strict. -/
lemma pairwise_toInsert (t : Text) : (toInsert t).Pairwise Earlier := by
  have hnodup : (toInsert t).Nodup := by
    rw [toInsert, (Sorting.sort_perm _ _).nodup_iff]
    exact (List.Nodup.of_map Prod.snd (List.nodup_zipIdx_map_snd t)).filter _
  have hsorted : (toInsert t).Pairwise (inOrder · ·) := Sorting.pairwise_sort _
  refine (hsorted.and hnodup).imp fun {x y} h => ?_
  obtain ⟨horder, hne⟩ := h
  refine (inOrder_iff.mp horder).imp_right fun ⟨heq, hle⟩ => ⟨heq, Nat.lt_of_le_of_ne hle fun h => ?_⟩
  exact hne (Prod.ext heq h)

/-- A character that is inserted later is put further to the right, if it is the same. -/
lemma place_lt_of_earlier (hx : x ∈ t.zipIdx) (h : x.1 = y.1 ∧ x.2 < y.2) :
    (insertion t x).place < (insertion t y).place := by
  obtain ⟨a, b, rfl, ha⟩ := exists_of_mem_zipIdx hx
  obtain ⟨heq, hlt⟩ := h
  have hsucc : (a ++ x.1 :: b).take (x.2 + 1) = a ++ [x.1] := by
    rw [← ha, List.take_append, List.take_of_length_le (Nat.le_succ _), Nat.add_sub_cancel_left, List.take_succ_cons,
      List.take_zero]
  have hcount : ((a ++ x.1 :: b).take (x.2 + 1)).countP (fun d => d.toNat ≤ x.1.toNat) =
      ((a ++ x.1 :: b).take x.2).countP (fun d => d.toNat ≤ x.1.toNat) + 1 := by
    rw [hsucc, List.take_left' ha, List.countP_append]
    simp
  show ((a ++ x.1 :: b).take x.2).countP _ < ((a ++ x.1 :: b).take y.2).countP _
  rw [← heq, ← Nat.succ_le_iff, Nat.succ_eq_add_one, ← hcount]
  exact (List.take_sublist_take_left hlt).countP_le

/-! ## Texts in the making -/

/-- A text without some of its characters, given with their places. -/
def without (t : Text) (l : List (Char × Nat)) : Text :=
  (t.zipIdx.filter fun x => x ∉ l).map Prod.fst

/-- A text without none of its characters is whole. -/
lemma without_nil (t : Text) : without t [] = t := by
  simp [without]

/-- Before the first insertion a text is its ASCII characters. -/
lemma without_toInsert (t : Text) : without t (toInsert t) = t.filter Text.isAscii := by
  have hfilter : (t.zipIdx.filter fun x => x ∉ toInsert t) = t.zipIdx.filter (Text.isAscii ∘ Prod.fst) := by
    refine List.filter_congr fun x hx => ?_
    simp [mem_toInsert, hx]
  rw [without, hfilter, ← List.filter_map, List.zipIdx_map_fst]

/-- A character that is inserted goes where it belongs: behind those before it that are there already. -/
lemma without_eq_insert {earlier later : List (Char × Nat)} (h : toInsert t = earlier ++ x :: later) :
    (insertion t x).place ≤ (without t (x :: later)).length ∧
      without t later = (without t (x :: later)).take (insertion t x).place ++
        x.1 :: (without t (x :: later)).drop (insertion t x).place := by
  obtain ⟨hx, hascii⟩ := mem_toInsert.mp (h ▸ List.mem_append_right _ List.mem_cons_self : x ∈ toInsert t)
  have hpairwise := pairwise_toInsert t
  rw [h, List.pairwise_append, List.pairwise_cons] at hpairwise
  obtain ⟨-, ⟨hlater, -⟩, hearlier⟩ := hpairwise
  -- what is missing before the place of `x` is greater than `x`
  have hmissing : ∀ y ∈ t.zipIdx, y.2 < x.2 → (y ∉ later ↔ y.1.toNat ≤ x.1.toNat) := by
    intro y hy hlt
    refine ⟨fun hmem => Nat.le_of_not_lt fun hgt => ?_, fun hle hmem => ?_⟩
    · have hpending : y ∈ toInsert t := by
        refine mem_toInsert.mpr ⟨hy, ?_⟩
        rw [Text.isAscii, decide_eq_false_iff_not] at hascii ⊢
        omega
      rw [h, List.mem_append, List.mem_cons] at hpending
      rcases hpending with hy | rfl | hy
      · rcases hearlier y hy x List.mem_cons_self with h | ⟨h, -⟩
        · omega
        · rw [h] at hgt
          exact Nat.lt_irrefl _ hgt
      · exact Nat.lt_irrefl _ hlt
      · exact hmem hy
    · rcases hlater y hmem with h | ⟨-, h⟩
      · omega
      · omega
  have hself : x ∉ later := by
    intro hmem
    rcases hlater x hmem with h | ⟨-, h⟩
    · exact Nat.lt_irrefl _ h
    · exact Nat.lt_irrefl _ h
  obtain ⟨a, b, hab, ha⟩ := exists_of_mem_zipIdx hx
  have hzip : t.zipIdx = a.zipIdx ++ x :: b.zipIdx (x.2 + 1) := by
    rw [hab, List.zipIdx_append, List.zipIdx_cons, Nat.zero_add, ha]
  have hbefore : ∀ y ∈ a.zipIdx, y.2 < x.2 := fun y hy => ha ▸ List.snd_lt_of_mem_zipIdx hy
  have hafter : ∀ y ∈ b.zipIdx (x.2 + 1), x.2 < y.2 := fun y hy => List.le_snd_of_mem_zipIdx hy
  set front := ((a.zipIdx.filter fun y => y ∉ later).map Prod.fst) with hfront
  set back := ((b.zipIdx (x.2 + 1)).filter fun y => y ∉ later).map Prod.fst with hback
  have hother : ∀ y : Char × Nat, y.2 ≠ x.2 → (y ∉ x :: later ↔ y ∉ later) := by
    intro y hne
    rw [List.mem_cons, not_or]
    exact ⟨And.right, fun h => ⟨fun heq => hne (congrArg Prod.snd heq), h⟩⟩
  have hwith : without t later = front ++ x.1 :: back := by
    rw [without, hzip, List.filter_append, List.map_append, List.filter_cons_of_pos (by simpa using hself),
      List.map_cons]
  have hwithout : without t (x :: later) = front ++ back := by
    rw [without, hzip, List.filter_append, List.map_append, List.filter_cons_of_neg (by simp)]
    congr 2
    · refine List.filter_congr fun y hy => ?_
      simp only [hother y (Nat.ne_of_lt (hbefore y hy))]
    · refine List.filter_congr fun y hy => ?_
      simp only [hother y (Nat.ne_of_gt (hafter y hy))]
  have hplace : front.length = (insertion t x).place := by
    have htake : t.take x.2 = a := by rw [hab, List.take_left' ha]
    show _ = (t.take x.2).countP _
    rw [htake, hfront, List.length_map, ← List.countP_eq_length_filter]
    conv_rhs => rw [← List.zipIdx_map_fst 0 a, List.countP_map]
    refine List.countP_congr fun y hy => ?_
    have hmem : y ∈ t.zipIdx := hzip ▸ List.mem_append_left _ hy
    simpa using hmissing y hmem (hbefore y hy)
  rw [hwith, hwithout, ← hplace, List.take_left, List.drop_left, List.length_append]
  exact ⟨Nat.le_add_right _ _, rfl⟩

/-- A text without some of its characters is no longer than the text. -/
lemma length_without_le (t : Text) (l : List (Char × Nat)) : (without t l).length ≤ t.length := by
  rw [without, List.length_map]
  exact (List.length_filter_le _ _).trans_eq List.length_zipIdx

/-! ## The text is read back -/

/-- A reader that holds the other characters of a text puts those that are still to be inserted where they belong. -/
lemma decodeFrom_encodeFrom (earlier : List (Char × Nat)) {later : List (Char × Nat)}
    (h : toInsert t = earlier ++ later)
    (hfits : 0x110000 * t.length ≤ maxNumber) {bias code place : Nat} {isFirst : Bool}
    (hplace : place ≤ (without t later).length)
    (hnext : ∀ x ∈ later, code < x.1.toNat ∨ code = x.1.toNat ∧ place ≤ (insertion t x).place) :
    decodeFrom (.begin bias code place isFirst (without t later))
      (encodeFrom bias code place (without t later).length isFirst (later.map (insertion t))) = some t := by
  induction later generalizing earlier bias code place isFirst with
  | nil => exact congrArg some (without_nil t)
  | cons x later ih =>
    obtain ⟨hinsert, hmade⟩ := without_eq_insert h
    have hlength : (without t later).length = (without t (x :: later)).length + 1 := by
      rw [hmade, List.length_append, List.length_cons, List.length_take_of_le hinsert, List.length_drop]
      omega
    generalize hn : (x.1.toNat - code) * ((without t (x :: later)).length + 1) + (insertion t x).place - place = n
    -- at most every code point is passed over, at each place of the text
    have hsmall : n ≤ maxNumber := by
      have hchar : x.1.toNat - code ≤ 0x10ffff := by
        rcases x.1.valid with hvalid | ⟨-, hvalid⟩
        · have : x.1.toNat < 0xd800 := hvalid
          omega
        · have : x.1.toNat < 0x110000 := hvalid
          omega
      have hspan := Nat.mul_le_mul_right ((without t (x :: later)).length + 1) hchar
      have htext := length_without_le t later
      omega
    have hread : (Reader.begin bias code place isFirst (without t (x :: later))).insert? n =
        some (.begin (adapt isFirst ((without t (x :: later)).length + 1) n) x.1.toNat ((insertion t x).place + 1)
          false (without t later)) := by
      rw [← hn, hmade]
      have hcode : code ≤ x.1.toNat := by
        rcases hnext x List.mem_cons_self with h | ⟨h, -⟩
        · exact h.le
        · exact h.le
      exact insert?_number hcode hinsert ((hnext x List.mem_cons_self).imp_right And.right) hplace
    rw [List.map_cons, encodeFrom]
    show decodeFrom _ (numberDigits bias base ((x.1.toNat - code) * _ + (insertion t x).place - place) ++
      encodeFrom (adapt isFirst _ ((x.1.toNat - code) * _ + (insertion t x).place - place)) _ _ _ _ _) = _
    rw [hn, decodeFrom_begin _ hsmall, hread, Option.bind_some, ← hlength]
    refine ih (earlier ++ [x]) (by rw [h, List.append_assoc, List.singleton_append]) (by omega) ?_
    -- the next character is a later one: of a higher code point, or the same further to the right
    intro y hy
    have hpairwise := pairwise_toInsert t
    rw [h, List.pairwise_append, List.pairwise_cons] at hpairwise
    obtain ⟨-, ⟨hlater, -⟩, -⟩ := hpairwise
    have hx : x ∈ t.zipIdx := (mem_toInsert.mp (h ▸ List.mem_append_right _ List.mem_cons_self)).1
    refine (hlater y hy).imp_right fun hsame => ⟨congrArg Char.toNat hsame.1, ?_⟩
    exact place_lt_of_earlier hx hsame

/-- Each insertion takes at least one digit. -/
lemma length_le_encodeFrom (xs : List Insertion) (bias code place length : Nat) (isFirst : Bool) :
    xs.length ≤ (encodeFrom bias code place length isFirst xs).length := by
  induction xs generalizing bias code place length isFirst with
  | nil => exact Nat.zero_le _
  | cons x xs ih =>
    have hdigits : ∀ place n, 1 ≤ (numberDigits bias place n).length := by
      intro place n
      rw [numberDigits]
      split
      · exact Nat.le_refl _
      · exact Nat.succ_le_succ (Nat.zero_le _)
    rw [encodeFrom, List.length_append, List.length_cons, Nat.add_comm]
    exact Nat.add_le_add (hdigits _ _) (ih _ _ _ _ _)

/-- Each character of a text takes at least one of its Punycode. -/
lemma length_le_encode (t : Text) : t.length ≤ (encode t).length := by
  have hparts : t.length = (t.filter Text.isAscii).length + (insertions t).length := by
    have hlength : (insertions t).length = ((t.zipIdx.map Prod.fst).filter fun c => !Text.isAscii c).length := by
      rw [insertions_eq, List.length_map, toInsert, (Sorting.sort_perm _ _).length_eq, List.filter_map, List.length_map]
      rfl
    rw [hlength, List.zipIdx_map_fst, ← List.countP_eq_length_filter, ← List.countP_eq_length_filter]
    simpa using List.length_eq_countP_add_countP (l := t) Text.isAscii
  have hbasics : (t.filter Text.isAscii).length ≤
      (if (t.filter Text.isAscii).isEmpty then [] else t.filter Text.isAscii ++ ['-']).length := by
    split
    · next h => rw [List.isEmpty_iff.mp h]
    · rw [List.length_append]
      exact Nat.le_add_right _ _
  rw [encode, List.length_append, hparts]
  exact Nat.add_le_add hbasics (length_le_encodeFrom _ _ _ _ _ _)

/-- The last hyphen stands before the digits. -/
lemma split_encode (t : Text) :
    split (encode t) =
      (t.filter Text.isAscii, encodeFrom 72 0x80 0 (t.filter Text.isAscii).length true (insertions t)) := by
  have hdigits : '-' ∉ encodeFrom 72 0x80 0 (t.filter Text.isAscii).length true (insertions t) := by
    intro hmem
    obtain ⟨d, hd, hc⟩ := exists_digitChar_of_mem_encodeFrom hmem
    have hall : ∀ d, d < 36 → digitChar d ≠ '-' := by decide
    exact hall d hd hc.symm
  rw [split, encode]
  cases hbasics : t.filter Text.isAscii with
  | nil =>
    rw [hbasics] at hdigits
    rw [List.isEmpty_nil, if_pos rfl, List.nil_append, Text.cutLast_eq_none hdigits]
  | cons c basics =>
    rw [hbasics] at hdigits
    rw [List.isEmpty_cons, if_neg Bool.false_ne_true, List.append_assoc, List.singleton_append,
      Text.cutLast_append hdigits]

/-- A text that is short enough is read back from its Punycode. -/
theorem decode?_encode (hfits : 0x110000 * t.length ≤ maxNumber) : decode? (encode t) = some t := by
  have hbasics : (t.filter Text.isAscii).all Text.isAscii = true :=
    List.all_eq_true.mpr fun c hc => (List.mem_filter.mp hc).2
  rw [decode?, split_encode]
  simp only [hbasics, if_true]
  rw [← without_toInsert, insertions_eq]
  refine decodeFrom_encodeFrom [] rfl hfits (Nat.zero_le _) fun x hx => ?_
  have hx := (mem_toInsert.mp hx).2
  rw [Text.isAscii, decide_eq_false_iff_not] at hx
  rcases Nat.lt_or_eq_of_le (Nat.le_of_not_lt hx) with h | h
  · exact .inl h
  · exact .inr ⟨h, Nat.zero_le _⟩

/-- A reader goes up in code points, and inserts the one that it comes to. -/
lemma of_insert? {r next : Reader} {n : Nat} (h : r.insert? n = some next) :
    r.code ≤ next.code ∧ ∀ c ∈ next.made, c ∈ r.made ∨ c.toNat = next.code := by
  rw [Reader.insert?] at h
  split at h
  · next hvalid =>
    obtain rfl := Option.some.inj h
    refine ⟨Nat.le_add_right _ _, fun c hc => ?_⟩
    rcases List.mem_append.mp hc with hc | hc
    · exact .inl (List.mem_of_mem_take hc)
    · rcases List.mem_cons.mp hc with rfl | hc
      · refine .inr ?_
        rw [Char.ofNat, dif_pos hvalid]
        rfl
      · exact .inl (List.mem_of_mem_drop hc)
  · cases h

/-- What a reader inserts is not ASCII. -/
lemma of_mem_decodeFrom {r : Reader} {digits : Text} (hr : 0x80 ≤ r.code) (h : decodeFrom r digits = some t)
    (hc : c ∈ t) : c ∈ r.made ∨ Text.isAscii c = false := by
  induction digits generalizing r with
  | nil =>
    rw [decodeFrom] at h
    split at h
    · obtain rfl := Option.some.inj h
      exact .inl hc
    · cases h
  | cons digit rest ih =>
    rw [decodeFrom] at h
    obtain ⟨d, -, h⟩ := Option.bind_eq_some_iff.mp h
    dsimp only at h
    split at h
    · -- the code point of a reader never falls, so it stays beyond ASCII
      obtain ⟨next, hnext, h⟩ := Option.bind_eq_some_iff.mp h
      obtain ⟨hcode, hmade⟩ := of_insert? hnext
      rcases ih (hr.trans hcode) h with hc | hother
      · refine (hmade c hc).imp_right fun heq => ?_
        rw [Text.isAscii, heq, decide_eq_false_iff_not]
        exact Nat.not_lt.mpr (hr.trans hcode)
      · exact .inr hother
    · split at h
      · cases h
      · exact ih (r := { r with
          number := r.number + d * r.weight
          weight := r.weight * (base - threshold r.bias r.digitPlace)
          digitPlace := r.digitPlace + base }) hr h

/-- What is read from Punycode was there as it is, or is not ASCII. -/
lemma of_mem_decode? {u : Text} (h : decode? u = some t) (hc : c ∈ t) : c ∈ u ∨ Text.isAscii c = false := by
  rw [decode?] at h
  simp only at h
  split at h
  · refine (of_mem_decodeFrom (Nat.le_refl _) h hc).imp_left fun hbasics => ?_
    have hbasics : c ∈ (split u).1 := hbasics
    rw [split] at hbasics
    split at hbasics
    · next hcut =>
      rw [Text.eq_of_cutLast hcut]
      exact List.mem_append_left _ hbasics
    · cases hbasics
  · cases h

end SenderPolicy.Idna.Punycode
