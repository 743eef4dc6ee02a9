import SenderPolicy.Proofs.Bytes
import SenderPolicy.Proofs.QueriedNames

/-!
# Names cut until they fit

A name that is too long loses its first label, turn after turn, until it fits or has a single label. Each turn takes one
dot away, so there are no more turns than dots (`Turns.eq_truncate`). What is left is the longest that fits, of the name
and what stands behind its dots; if none of these fits it is the last label (`truncate_eq_iff`).
-/

namespace SenderPolicy.DomainName

/-! ## Turns -/

/-- What a turn leaves of a name that is too long: all behind its first dot. A name that fits or has no dot gets no
turn. -/
def turn? (name : Text) : Option Text :=
  if Text.byteLength name ≤ maxLength then none else (Text.cutFirst '.' name).map Prod.snd

/-- After so many turns the second text is left of the first, and it gets no turn. -/
inductive Turns : Nat → Text → Text → Prop
  | stop {t : Text} (h : turn? t = none) : Turns 0 t t
  | turn {n : Nat} {s t u : Text} (h : turn? s = some t) (hrest : Turns n t u) : Turns (n + 1) s u

variable {name s t u : Text} {n : Nat}

/-- A name gets no turn if it fits or has no dot. -/
lemma turn?_eq_none_iff : turn? t = none ↔ Text.byteLength t ≤ maxLength ∨ '.' ∉ t := by
  rw [turn?]
  split
  · next hfits => exact iff_of_true rfl (.inl hfits)
  · next hlong =>
    rw [or_iff_right hlong, Option.map_eq_none_iff]
    exact ⟨Text.notMem_of_cutFirst, Text.cutFirst_eq_none⟩

/-- A turn takes the first label and its dot from a name that is too long. -/
lemma turn?_eq_some_iff :
    turn? s = some t ↔ maxLength < Text.byteLength s ∧ ∃ label, s = label ++ '.' :: t ∧ '.' ∉ label := by
  rw [turn?, Option.ite_none_left_eq_some, Nat.not_le]
  refine and_congr_right fun _ => ?_
  rw [Option.map_eq_some_iff]
  constructor
  · rintro ⟨⟨label, rest⟩, hcut, rfl⟩
    exact ⟨label, Text.cutFirst_eq_some_iff.mp hcut⟩
  · rintro ⟨label, hs⟩
    exact ⟨(label, t), Text.cutFirst_eq_some_iff.mpr hs, rfl⟩

/-- A turn takes one dot away. -/
lemma count_of_turn? (h : turn? s = some t) : s.count '.' = t.count '.' + 1 := by
  obtain ⟨-, label, rfl, hlabel⟩ := turn?_eq_some_iff.mp h
  rw [List.count_append, List.count_cons_self, List.count_eq_zero_of_not_mem hlabel, Nat.zero_add]

/-- A single label stays as it is. -/
lemma truncate_of_notMem (h : '.' ∉ t) : truncate t = t := by
  rcases Nat.lt_or_ge maxLength (Text.byteLength t) with hlong | hfits
  · have hcut : t.dropWhile (· != '.') = [] := by
      rw [List.dropWhile_eq_nil_iff]
      rintro c hc
      exact bne_iff_ne.mpr fun hdot => h (hdot ▸ hc)
    rw [truncate_of_lt hlong, hcut]
  · exact truncate_of_le hfits

/-- A name that gets no turn stays as it is. -/
lemma truncate_of_turn?_eq_none (h : turn? t = none) : truncate t = t :=
  (turn?_eq_none_iff.mp h).elim truncate_of_le truncate_of_notMem

/-- A turn does not change what a name is truncated to. -/
lemma truncate_of_turn? (h : turn? s = some t) : truncate s = truncate t := by
  obtain ⟨hlong, label, rfl, hlabel⟩ := turn?_eq_some_iff.mp h
  exact truncate_append hlong hlabel

/-- No dot is added. -/
lemma count_truncate_le (t : Text) : (truncate t).count '.' ≤ t.count '.' :=
  (truncate_suffix t).sublist.count_le '.'

/-- The turns of a name end at what it is truncated to, and each of them has taken one dot away. -/
lemma Turns.eq_truncate (h : Turns n s t) : t = truncate s ∧ n + t.count '.' = s.count '.' := by
  induction h with
  | stop h => exact ⟨(truncate_of_turn?_eq_none h).symm, Nat.zero_add _⟩
  | turn h _ ih =>
    obtain ⟨rfl, hcount⟩ := ih
    refine ⟨(truncate_of_turn? h).symm, ?_⟩
    rw [count_of_turn? h]
    omega

/-- As many turns as dots are taken away come to an end there. -/
lemma turns_truncate (h : n + (truncate s).count '.' = s.count '.') : Turns n s (truncate s) := by
  -- by the number of turns, since each of them takes away one of the dots that are not left
  induction n generalizing s with
  | zero =>
    cases hturn : turn? s with
    | none =>
      rw [truncate_of_turn?_eq_none hturn]
      exact .stop hturn
    | some t =>
      have hle := count_truncate_le t
      rw [truncate_of_turn? hturn, count_of_turn? hturn] at h
      omega
  | succ n ih =>
    cases hturn : turn? s with
    | none =>
      rw [truncate_of_turn?_eq_none hturn] at h
      omega
    | some t =>
      rw [truncate_of_turn? hturn, count_of_turn? hturn] at h
      rw [truncate_of_turn? hturn]
      exact .turn hturn (ih (by omega))

/-! ## The longest that fits -/

/-- What a name is under stands at its end. -/
lemma IsUnder.suffix (h : IsUnder t s) : t <:+ s := by
  rcases h with rfl | ⟨below, rfl⟩
  · exact List.suffix_rfl
  · exact ⟨below ++ ['.'], by simp⟩

/-- What stands behind a dot of what stands behind a dot does so itself. -/
lemma IsUnder.trans (h : IsUnder u t) (h' : IsUnder t s) : IsUnder u s := by
  rcases h with rfl | ⟨below, rfl⟩
  · exact h'
  · rcases h' with rfl | ⟨below', rfl⟩
    · exact .inr ⟨below, rfl⟩
    · exact .inr ⟨below' ++ '.' :: below, by simp⟩

/-- What is left after some turns is all, or stands behind a dot. -/
lemma Turns.isUnder (h : Turns n s t) : IsUnder t s := by
  induction h with
  | stop h => exact .inl rfl
  | turn h _ ih =>
    obtain ⟨-, label, hs, -⟩ := turn?_eq_some_iff.mp h
    exact ih.trans (.inr ⟨label, hs⟩)

/-- What is left of a name is all, or stands behind one of its dots. -/
lemma truncate_isUnder (s : Text) : IsUnder (truncate s) s :=
  (turns_truncate (Nat.sub_add_cancel (count_truncate_le s))).isUnder

/-- What fits is not cut off. -/
lemma IsUnder.truncate (h : IsUnder t s) (hfits : Text.byteLength t ≤ maxLength) :
    IsUnder t (DomainName.truncate s) := by
  rcases h with rfl | ⟨below, rfl⟩
  · rw [truncate_of_le hfits]
    exact .inl rfl
  · exact isUnder_truncate hfits below

/-- Nothing else stands behind a dot where there is none. -/
lemma IsUnder.eq_of_notMem (h : IsUnder t s) (hs : '.' ∉ s) : t = s := by
  rcases h with rfl | ⟨below, rfl⟩
  · rfl
  · exact absurd (List.mem_append_right below List.mem_cons_self) hs

/-- What stands behind the last dot is cut off there. -/
lemma IsUnder.eq_last (h : IsUnder t s) (ht : '.' ∉ t) : t = ((Text.cutLast '.' s).map Prod.snd).getD s := by
  rcases h with rfl | ⟨below, rfl⟩
  · rw [Text.cutLast_eq_none ht]
    rfl
  · rw [Text.cutLast_append ht]
    rfl

/-- What is left of a name fits if anything does, of the name and what stands behind its dots. -/
lemma truncate_fits_of_isUnder (h : IsUnder t s) (hfits : Text.byteLength t ≤ maxLength) :
    Text.byteLength (truncate s) ≤ maxLength := by
  rcases truncate_fits s with hs | hs
  · exact hs
  · rwa [← (h.truncate hfits).eq_of_notMem hs]

/-- A text is the longest that fits, of the name and what stands behind its dots; if none of these fits, it is the last
of them, without dots. -/
def IsLongest (name t : Text) : Prop :=
  IsUnder t name ∧
    (Text.byteLength t ≤ 253 ∧
        (∀ u, IsUnder u name → Text.byteLength u ≤ 253 → Text.byteLength u ≤ Text.byteLength t) ∨
      (∀ u, IsUnder u name → 253 < Text.byteLength u) ∧ '.' ∉ t)

/-- What a name is truncated to is the longest that fits, or its last label. -/
lemma isLongest_truncate (name : Text) : IsLongest name (truncate name) := by
  refine ⟨truncate_isUnder name, ?_⟩
  by_cases hfits : Text.byteLength (truncate name) ≤ 253
  · refine .inl ⟨hfits, fun u hu hufits => ?_⟩
    exact Text.byteLength_le_of_suffix (hu.truncate hufits).suffix
  · refine .inr ⟨fun u hu => Nat.lt_of_not_le fun hufits => ?_, (truncate_fits name).resolve_left hfits⟩
    exact hfits (truncate_fits_of_isUnder hu hufits)

/-- There is one such text only: two that fit are ends of one name, and of the same length. -/
lemma IsLongest.eq_truncate (h : IsLongest name t) : t = truncate name := by
  obtain ⟨hunder, ⟨hfits, hlongest⟩ | ⟨hlong, hdot⟩⟩ := h
  · refine Text.eq_of_suffix_of_byteLength_le (hunder.truncate hfits).suffix ?_
    exact hlongest _ (truncate_isUnder name) (truncate_fits_of_isUnder hunder hfits)
  · have hlong' : ¬Text.byteLength (truncate name) ≤ 253 := Nat.not_le.mpr (hlong _ (truncate_isUnder name))
    have hdot' := (truncate_fits name).resolve_left hlong'
    rw [hunder.eq_last hdot, (truncate_isUnder name).eq_last hdot']

/-- The turns of a name come to an end, at one text only, and each of them takes one dot away, so there are no more than
dots. The text is the longest that fits, of the name and what stands behind its dots, and the last label if none of
these fits. -/
theorem truncate_eq_iff (name : Text) :
    (∃ turns ≤ name.count '.', Turns turns name (truncate name)) ∧
      (∀ turns t, Turns turns name t → t = truncate name ∧ turns + t.count '.' = name.count '.') ∧
      ∀ t, truncate name = t ↔ IsLongest name t := by
  refine ⟨⟨name.count '.' - (truncate name).count '.', Nat.sub_le _ _, ?_⟩, fun turns t => Turns.eq_truncate,
    fun t => ⟨?_, fun h => h.eq_truncate.symm⟩⟩
  · exact turns_truncate (Nat.sub_add_cancel (count_truncate_le name))
  · rintro rfl
    exact isLongest_truncate name

/-- A last label that is too long is what is left, however short the labels before it are. -/
theorem truncate_eq_iff_overlong :
    let long := List.replicate 200 'ä'
    let name := long ++ ".a.".toList ++ long
    Turns 2 name long ∧ long = truncate name ∧ IsLongest name long := by
  intro long name
  have hfirst : turn? name = some ("a.".toList ++ long) := by decide +kernel
  have hsecond : turn? ("a.".toList ++ long) = some long := by decide +kernel
  have hturns : Turns 2 name long := .turn hfirst (.turn hsecond (.stop (by decide +kernel)))
  obtain ⟨-, hend, hlongest⟩ := truncate_eq_iff name
  have hlong := (hend 2 long hturns).1
  exact ⟨hturns, hlong, (hlongest long).mp hlong.symm⟩

/-- Empty labels count as others do. -/
example :
    truncate (List.replicate 254 'a' ++ "..b.c".toList) = ".b.c".toList ∧
      truncate (List.replicate 254 'a' ++ ['.']) = [] := by
  decide +kernel

end SenderPolicy.DomainName
