import Mathlib.Data.Nat.PSub
import SenderPolicy.Proofs.Bytes
import SenderPolicy.Proofs.NamesBelow

/-!
# Names compared by their bytes

Whether a name is another one or lies below it can be told at places among its bytes (`isSameOrBelow?`): the end that is
as long as the other name has to be the same but for letter case, and the byte before it a dot. Such a comparison could
go wrong, since the end of the one name that is as long as the other may start inside a character. But where a dot is
found the next byte starts a character, so there is always an answer, and it is the one that is told by characters
(`isSameOrBelow?_eq`). Names are ordered by it, but for letter case and dots at the end.
-/

namespace SenderPolicy.DomainName

variable {name parent a b c n p : Text}

/-- Whether a name has another one at its end, with more in front and a dot between, told at places among its bytes.
There is no answer if a length or a place would be below zero, if a place is beyond the bytes, or if a cut falls inside
a character. -/
def endsBehindDot? (name parent : Text) : Option Bool :=
  if Text.byteLength parent + 1 < Text.byteLength name then do
    let start ← (Text.byteLength name).psub (Text.byteLength parent)
    let before ← start.psub 1
    let mark ← (Text.bytes name)[before]?
    if mark = UInt8.ofNat '.'.toNat then
      let tail ← Text.fromByte? start name
      return Text.sameLetters tail parent
    else
      return false
  else
    some false

/-- The comparison of two names by their bytes. -/
def isSameOrBelow? (name parent : Text) : Option Bool :=
  let name := Text.dropDots name
  let parent := Text.dropDots parent
  if Text.sameLetters name parent then some true else endsBehindDot? name parent

/-! ## The end behind a dot -/

/-- The name has the other one at its end but for letter case, with more in front and a dot between. -/
def EndsBehindDot (n p : Text) : Prop :=
  ∃ x y, x ≠ [] ∧ n = x ++ '.' :: y ∧ Text.sameLetters y p = true

/-- A name has another at its end but for letter case exactly if it has it so in small letters. -/
lemma lower_eq_append_dot_iff :
    (∃ front, front ≠ [] ∧ Text.lower n = front ++ '.' :: Text.lower p) ↔ EndsBehindDot n p := by
  constructor
  · rintro ⟨front, hne, hn⟩
    obtain ⟨x, rest, rfl, rfl, hrest⟩ := List.map_eq_append_iff.mp hn
    obtain ⟨d, y, rfl, hd, hy⟩ := List.map_eq_cons_iff.mp hrest
    obtain rfl := eq_dot_of_toLower hd
    exact ⟨x, y, fun hx => hne (congrArg Text.lower hx), rfl, Text.sameLetters_iff.mpr hy⟩
  · rintro ⟨x, y, hne, rfl, hy⟩
    refine ⟨Text.lower x, fun hx => hne (List.map_eq_nil_iff.mp hx), ?_⟩
    rw [Text.lower_append, ← Text.sameLetters_iff.mp hy]
    rfl

/-- The comparison by characters, told without small letters. -/
lemma isSameOrBelow_iff_endsBehindDot :
    isSameOrBelow name parent = true ↔
      Text.sameLetters (Text.dropDots name) (Text.dropDots parent) = true ∨
        EndsBehindDot (Text.dropDots name) (Text.dropDots parent) := by
  simp only [isSameOrBelow, Bool.or_eq_true, Bool.and_eq_true, decide_eq_true_iff]
  exact or_congr_right (endsBehindDot_iff.trans lower_eq_append_dot_iff)

/-- The dot between two texts is one more byte. -/
lemma byteLength_append_dot (x y : Text) :
    Text.byteLength (x ++ '.' :: y) = Text.byteLength x + 1 + Text.byteLength y := by
  have hdot : Char.utf8Size '.' = 1 := rfl
  rw [Text.byteLength_append, Text.byteLength, hdot, Nat.add_assoc]

/-- Behind a dot a character starts, or the text ends. -/
lemma fromByte?_of_dot {i : Nat} (h : (Text.bytes n)[i]? = some (UInt8.ofNat '.'.toNat)) :
    ∃ x y, n = x ++ '.' :: y ∧ Text.byteLength x = i ∧ Text.fromByte? (i + 1) n = some y := by
  obtain ⟨x, y, rfl, hx⟩ := (Text.getElem?_bytes_iff (by decide)).mp h
  refine ⟨x, y, rfl, hx, Text.fromByte?_eq_some_iff.mpr ⟨x ++ ['.'], by simp, ?_⟩⟩
  rw [Text.byteLength_append, hx]
  rfl

/-- Behind a dot that stands where the other name would have to start, the ends decide. -/
lemma endsBehindDot_append_iff {x y : Text} (hne : x ≠ []) (hlength : Text.byteLength y = Text.byteLength p) :
    EndsBehindDot (x ++ '.' :: y) p ↔ Text.sameLetters y p = true := by
  refine ⟨?_, fun hy => ⟨x, y, hne, rfl, hy⟩⟩
  rintro ⟨x', y', -, hname, hy'⟩
  have hlength' := Text.byteLength_eq_of_sameLetters hy'
  -- both ends have as many bytes as the other name, so they are cut at one place
  have hcut : Text.fromByte? (Text.byteLength x) (x ++ '.' :: y) = some ('.' :: y) :=
    Text.fromByte?_eq_some_iff.mpr ⟨x, rfl, rfl⟩
  have hcut' : Text.fromByte? (Text.byteLength x) (x ++ '.' :: y) = some ('.' :: y') := by
    refine Text.fromByte?_eq_some_iff.mpr ⟨x', hname, ?_⟩
    have hbytes := congrArg Text.byteLength hname
    rw [byteLength_append_dot, byteLength_append_dot] at hbytes
    omega
  rw [hcut, Option.some_inj] at hcut'
  rw [(List.cons.inj hcut').2]
  exact hy'

/-- Without a dot where the other name would have to have one before it, it is not at the end. -/
lemma not_endsBehindDot {i : Nat} (hi : i + 1 + Text.byteLength p = Text.byteLength n)
    (hmark : (Text.bytes n)[i]? ≠ some (UInt8.ofNat '.'.toNat)) : ¬EndsBehindDot n p := by
  rintro ⟨x, y, -, rfl, hy⟩
  refine hmark ((Text.getElem?_bytes_iff (by decide)).mpr ⟨x, y, rfl, ?_⟩)
  have hlength := Text.byteLength_eq_of_sameLetters hy
  rw [byteLength_append_dot] at hi
  omega

/-- A name of bytes that are too few has nothing in front of the other one. -/
lemma EndsBehindDot.byteLength_lt (h : EndsBehindDot n p) : Text.byteLength p + 1 < Text.byteLength n := by
  obtain ⟨x, y, hne, rfl, hy⟩ := h
  have hx := Text.byteLength_pos hne
  have hlength := Text.byteLength_eq_of_sameLetters hy
  rw [byteLength_append_dot]
  omega

/-! ## The comparison by bytes -/

/-- The end of a name is compared without fault. -/
lemma exists_endsBehindDot?_eq (n p : Text) :
    ∃ answer, endsBehindDot? n p = some answer ∧ (answer = true ↔ EndsBehindDot n p) := by
  rw [endsBehindDot?]
  split
  · next hlong =>
    obtain ⟨i, hi⟩ : ∃ i, i + 1 + Text.byteLength p = Text.byteLength n :=
      ⟨Text.byteLength n - Text.byteLength p - 1, by omega⟩
    have hplace : i < (Text.bytes n).length := by
      rw [Text.length_bytes]
      omega
    have hstart : (Text.byteLength n).psub (Text.byteLength p) = some (i + 1) := Nat.psub_eq_some.mpr hi
    have hbefore : (i + 1).psub 1 = some i := Nat.psub_eq_some.mpr rfl
    have hmark := List.getElem?_eq_getElem hplace
    simp only [hstart, hbefore, hmark, Option.bind_eq_bind, Option.bind_some]
    split
    · -- the byte of a dot is no part of another character, so the name can be cut behind it
      next hdot =>
      rw [hdot] at hmark
      obtain ⟨x, y, rfl, hx, hcut⟩ := fromByte?_of_dot hmark
      have hne : x ≠ [] := by
        rintro rfl
        rw [Text.byteLength] at hx
        omega
      have hlength : Text.byteLength y = Text.byteLength p := by
        rw [byteLength_append_dot, hx] at hi
        omega
      rw [hcut]
      exact ⟨_, rfl, (endsBehindDot_append_iff hne hlength).symm⟩
    · next hdot =>
      have hmark' : (Text.bytes n)[i]? ≠ some (UInt8.ofNat '.'.toNat) := by
        rw [hmark]
        exact mt Option.some.inj hdot
      exact ⟨false, rfl, iff_of_false Bool.false_ne_true (not_endsBehindDot hi hmark')⟩
  · next hshort => exact ⟨false, rfl, iff_of_false Bool.false_ne_true (mt EndsBehindDot.byteLength_lt hshort)⟩

/-- The comparison by bytes has an answer, which is the one by characters. -/
lemma isSameOrBelow?_eq (name parent : Text) : isSameOrBelow? name parent = some (isSameOrBelow name parent) := by
  have hiff : isSameOrBelow name parent = true ↔ _ := isSameOrBelow_iff_endsBehindDot
  obtain ⟨answer, hanswer, hends⟩ := exists_endsBehindDot?_eq (Text.dropDots name) (Text.dropDots parent)
  rw [isSameOrBelow?]
  split
  · next hsame => rw [hiff.mpr (.inl hsame)]
  · next hsame =>
    rw [or_iff_right hsame, ← hends, ← Bool.eq_iff_iff] at hiff
    rw [hanswer, hiff]

/-! ## The order of names -/

/-- What is below a name that is below another one is below that. -/
lemma IsBelow.trans (h : IsBelow b a) (h' : IsBelow c b) : IsBelow c a := by
  obtain ⟨x, hx, ha⟩ := h
  obtain ⟨y, -, hb⟩ := h'
  refine ⟨x ++ '.' :: y, List.append_ne_nil_of_left_ne_nil hx _, ?_⟩
  rw [ha, hb, List.append_assoc]
  rfl

/-- A name below another one is longer, dots at the ends aside. -/
lemma IsBelow.length_lt (h : IsBelow b a) : (bare b).length < (bare a).length := by
  obtain ⟨x, -, ha⟩ := h
  rw [ha, List.length_append, List.length_cons]
  omega

/-- A name is the same as itself. -/
lemma isSameOrBelow_refl (a : Text) : isSameOrBelow a a = true :=
  isSameOrBelow_iff.mpr (.inl rfl)

/-- What is at or below a name that is at or below another one is at or below that. -/
lemma isSameOrBelow_trans (h : isSameOrBelow a b = true) (h' : isSameOrBelow b c = true) :
    isSameOrBelow a c = true := by
  rw [isSameOrBelow_iff] at h h' ⊢
  rcases h with hsame | hbelow
  · rcases h' with hsame' | ⟨y, hy, hb⟩
    · exact .inl (hsame.trans hsame')
    · exact .inr ⟨y, hy, hsame.trans hb⟩
  · rcases h' with hsame' | hbelow'
    · obtain ⟨x, hx, ha⟩ := hbelow
      exact .inr ⟨x, hx, hsame' ▸ ha⟩
    · exact .inr (hbelow.trans hbelow')

/-- Two names of which each is the other one or lies below it are the same. -/
lemma isSame_of_isSameOrBelow (h : isSameOrBelow a b = true) (h' : isSameOrBelow b a = true) : IsSame b a := by
  rw [isSameOrBelow_iff] at h h'
  rcases h with hsame | hbelow
  · exact hsame
  · rcases h' with hsame' | hbelow'
    · exact hsame'.symm
    · exact absurd hbelow.length_lt (Nat.lt_asymm hbelow'.length_lt)

/-- Names are compared by their bytes without fault: no length falls below zero, no place is beyond the bytes and no cut
falls inside a character. The answer is that of the comparison by characters: dots at the ends dropped and letter case
left aside, the first name is the second, or has it at its end, with more in front and a dot between. Each name is
itself, what is below a name that is below another is below that, and names that are each at or below the other are the
same. -/
theorem isSameOrBelow?_eq_and_iff :
    (∀ name parent : Text,
        isSameOrBelow? name parent = some (isSameOrBelow name parent) ∧
        (isSameOrBelow name parent = true ↔
          Text.sameLetters (Text.dropDots name) (Text.dropDots parent) = true ∨
            ∃ x y, x ≠ [] ∧ Text.dropDots name = x ++ '.' :: y ∧
              Text.sameLetters y (Text.dropDots parent) = true)) ∧
      (∀ a, isSameOrBelow a a = true) ∧
      (∀ a b c, isSameOrBelow a b = true → isSameOrBelow b c = true → isSameOrBelow a c = true) ∧
      ∀ a b, isSameOrBelow a b = true → isSameOrBelow b a = true →
        Text.sameLetters (Text.dropDots a) (Text.dropDots b) = true := by
  refine ⟨fun name parent => ⟨isSameOrBelow?_eq name parent, isSameOrBelow_iff_endsBehindDot⟩, isSameOrBelow_refl,
    fun a b c => isSameOrBelow_trans, fun a b h h' => ?_⟩
  exact Text.sameLetters_iff.mpr (isSame_of_isSameOrBelow h h')

/-- Letter case and dots at the end do not count on any of the ways, and what stands before the dot may be of several
bytes. -/
theorem isSameOrBelow?_eq_and_iff_threeNames :
    let a := "mx.ÄÖ.Example.com..".toList
    let b := "ÄÖ.example.COM".toList
    let c := "EXAMPLE.com.".toList
    isSameOrBelow? a b = some true ∧
      (isSameOrBelow a b = true ∧ isSameOrBelow b c = true ∧ isSameOrBelow a c = true) ∧
      let b' := "ÄÖ.EXAMPLE.com.".toList
      isSameOrBelow b b' = true ∧ isSameOrBelow b' b = true ∧
        Text.sameLetters (Text.dropDots b) (Text.dropDots b') = true := by
  intro a b c
  have hab : isSameOrBelow a b = true := by decide
  have hbc : isSameOrBelow b c = true := by decide
  obtain ⟨hiff, -, htrans, hsame⟩ := isSameOrBelow?_eq_and_iff
  refine ⟨(hiff a b).1.trans (congrArg some hab), ⟨hab, hbc, htrans a b c hab hbc⟩, ?_⟩
  intro b'
  have hle : isSameOrBelow b b' = true := by decide
  have hge : isSameOrBelow b' b = true := by decide
  exact ⟨hle, hge, hsame b b' hle hge⟩

/-- The last two bytes of this name start inside a character, but no dot is before them. -/
example :
    Text.fromByte? 2 "xäy".toList = none ∧ isSameOrBelow? "xäy".toList "ab".toList = some false ∧
      isSameOrBelow? "ä.ab".toList "AB.".toList = some true ∧
      isSameOrBelow? "ab".toList "ä.ab".toList = some false := by
  decide

end SenderPolicy.DomainName
