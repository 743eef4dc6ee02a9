import SenderPolicy.Proofs.LetterCase
import SenderPolicy.Proofs.NormalForm

/-!
# The ASCII form is read as itself

Mapping makes no capitals (`toLower_of_mapText`), and composition makes no dots (`dot_notMem_composedForm`). So a label
that was read is read back from what is written for it (`Label.isSettled_of_ofMapped?`): an ASCII label as it stands,
and one beyond ASCII from its Punycode. An ASCII form of such labels is its own ASCII form (`toAscii?_join`).
-/

namespace SenderPolicy.Idna

variable {t u : Text} {c d : Char} {n : Nat}

/-! ## Mapped characters -/

/-- A number is the code point of its character, unless it is none. -/
lemma toNat_ofNat (n : Nat) : (Char.ofNat n).toNat = n ∨ (Char.ofNat n).toNat = 0 := by
  by_cases hvalid : n.isValidChar
  · exact .inl (by rw [Char.ofNat, dif_pos hvalid]; rfl)
  · exact .inr (by rw [Char.ofNat, dif_neg hvalid]; rfl)

/-- Only a capital has another small letter than itself. -/
lemma toLower_eq_self (h : c.toNat < 0x41 ∨ 0x5A < c.toNat) : c.toLower = c := by
  have hall : Text.capitals.all (fun c => 0x41 ≤ c.toNat ∧ c.toNat ≤ 0x5A) = true := by decide
  by_contra hne
  have hbounds := of_decide_eq_true (List.all_eq_true.mp hall c (Text.mem_capitals_of_toLower_ne hne))
  omega

/-- No code point of an ASCII capital. -/
def isOutside (n : Nat) : Bool :=
  n < 0x41 || 0x5A < n

/-- A code point outside the capitals has a character that is its own small letter. -/
lemma toLower_ofNat (h : isOutside n = true) : (Char.ofNat n).toLower = Char.ofNat n := by
  rw [isOutside, Bool.or_eq_true, decide_eq_true_eq, decide_eq_true_eq] at h
  refine toLower_eq_self ?_
  rcases toNat_ofNat n with hn | hn
  · rwa [hn]
  · exact .inl (hn ▸ by decide)

/-- An entry for a run of characters none of which becomes an ASCII capital. -/
def isOutsideRun : List Nat → Bool
  | [_, _, _, target] => isOutside target
  | [_, count, _, target, targetStep] => 0x5A < target || target + (count - 1) * targetStep < 0x41
  | _ => true

/-- No run of the table has a capital among its targets. -/
lemma mappedRuns_outside : mappedRuns.all isOutsideRun = true := by
  decide +kernel

/-- No word of the table has a capital among its targets. -/
lemma mappedWords_outside : (mappedWords.all fun entry => (entry.drop 1).all isOutside) = true := by
  decide +kernel

/-- What a run without capitals puts in place of a character has none. -/
lemma toLower_of_runReplacement? {entry : List Nat} (hentry : isOutsideRun entry = true)
    (h : runReplacement? c entry = some t) (hd : d ∈ t) : d.toLower = d := by
  rw [runReplacement?.eq_def] at h
  split at h
  · obtain ⟨-, -, rfl⟩ := Option.map_eq_some_iff.mp h
    obtain rfl := List.mem_singleton.mp hd
    exact toLower_ofNat hentry
  · next first count step target targetStep =>
    obtain ⟨i, hi, rfl⟩ := Option.map_eq_some_iff.mp h
    obtain rfl := List.mem_singleton.mp hd
    have hcount : i < count := by
      rw [runPlace?] at hi
      split at hi
      · next hplace =>
        obtain rfl := Option.some.inj hi
        exact hplace.2.2
      · cases hi
    have hlast : i * targetStep ≤ (count - 1) * targetStep := Nat.mul_le_mul_right _ (by omega)
    refine toLower_ofNat ?_
    simp only [isOutsideRun, isOutside, Bool.or_eq_true, decide_eq_true_eq] at hentry ⊢
    omega
  · cases h

/-- What a word without capitals puts in place of a character has none. -/
lemma toLower_of_wordReplacement? {entry : List Nat} (hentry : (entry.drop 1).all isOutside = true)
    (h : wordReplacement? c entry = some t) (hd : d ∈ t) : d.toLower = d := by
  rw [wordReplacement?.eq_def] at h
  split at h
  · split at h
    · obtain rfl := Option.some.inj h
      obtain ⟨n, hn, rfl⟩ := List.mem_map.mp hd
      exact toLower_ofNat (List.all_eq_true.mp hentry n hn)
    · cases h
  · cases h

/-- What the table puts in place of a character has no capitals. -/
lemma toLower_of_replacement? (h : replacement? c = some t) (hd : d ∈ t) : d.toLower = d := by
  rcases Option.or_eq_some_iff.mp h with h | ⟨-, h⟩
  · obtain ⟨entry, hentry, h⟩ := List.exists_of_findSome?_eq_some h
    exact toLower_of_runReplacement? (List.all_eq_true.mp mappedRuns_outside entry hentry) h hd
  · obtain ⟨entry, hentry, h⟩ := List.exists_of_findSome?_eq_some h
    exact toLower_of_wordReplacement? (List.all_eq_true.mp mappedWords_outside entry hentry) h hd

/-- A character beyond ASCII is its own small letter, since only ASCII has letter case here. -/
lemma toLower_of_not_isAscii (h : Text.isAscii c = false) : c.toLower = c := by
  rw [Text.isAscii, decide_eq_false_iff_not] at h
  exact toLower_eq_self (.inr (by omega))

/-- A mapped character has no capitals: in ASCII they are made small, and the table has none. -/
lemma toLower_of_mapChar (h : mapChar c = some t) (hd : d ∈ t) : d.toLower = d := by
  rw [mapChar] at h
  split at h
  · obtain rfl := Option.some.inj h
    obtain rfl := List.mem_singleton.mp hd
    exact Text.eq_of_capitals (f := Char.toLower) (by decide) c
  · next hascii =>
    split at h
    · cases h
    · split at h
      · obtain rfl := Option.some.inj h
        cases hd
      · obtain rfl := Option.some.inj h
        cases hreplacement : replacement? c with
        | none =>
          rw [hreplacement, Option.getD_none, List.mem_singleton] at hd
          exact hd ▸ toLower_of_not_isAscii (Bool.eq_false_iff.mpr hascii)
        | some t =>
          rw [hreplacement, Option.getD_some] at hd
          exact toLower_of_replacement? hreplacement hd

/-- A mapped text has no capitals. -/
lemma toLower_of_mapText (h : mapText t = some u) (hd : d ∈ u) : d.toLower = d := by
  obtain ⟨parts, hparts, rfl⟩ := Option.map_eq_some_iff.mp h
  obtain ⟨part, hpart, hd⟩ := List.mem_flatten.mp hd
  obtain ⟨c, -, hc⟩ := exists_of_mem_mapM hparts hpart
  exact toLower_of_mapChar hc hd

/-- An ASCII text in small letters is mapped to itself. -/
lemma mapText_eq_self (h : ∀ c ∈ t, Text.isAscii c = true ∧ c.toLower = c) : mapText t = some t := by
  have hparts : t.mapM mapChar = some (t.map fun c => [c]) := by
    induction t with
    | nil => rfl
    | cons c t ih =>
      obtain ⟨hascii, hsmall⟩ := h c List.mem_cons_self
      rw [List.mapM_cons, mapChar, if_pos hascii, hsmall, ih fun d hd => h d (List.mem_cons_of_mem c hd)]
      rfl
  rw [mapText, hparts, Option.map_some, ← List.flatMap_def, List.flatMap_singleton']

/-! ## Composed characters -/

/-- A number other than that of the dot is not the code point of a dot. -/
lemma ofNat_ne_dot (h : n ≠ 0x2E) : Char.ofNat n ≠ '.' := by
  intro hdot
  have hdot : (Char.ofNat n).toNat = 0x2E := congrArg Char.toNat hdot
  rcases toNat_ofNat n with hn | hn
  · exact h (hn.symm.trans hdot)
  · cases hn.symm.trans hdot

/-- No character is composed to a dot, and none is taken apart into one. -/
lemma composites_ne_dot : (composites.all fun entry => !entry.contains 0x2E) = true := by
  decide +kernel

/-- No entry of the table of composites has the code point of a dot. -/
lemma ne_dot_of_mem_composites {entry : List Nat} (hentry : entry ∈ composites) (hn : n ∈ entry) : n ≠ 0x2E := by
  rintro rfl
  have hno := List.all_eq_true.mp composites_ne_dot entry hentry
  rw [Bool.not_eq_true', ← Bool.not_eq_true, List.contains_iff_mem] at hno
  exact hno hn

/-- The parts of a Hangul syllable are no dots. -/
lemma dot_notMem_hangulParts? (h : Hangul.parts? c = some t) : '.' ∉ t := by
  have hlead : ∀ i, '.' ≠ Char.ofNat (Hangul.leadBase + i) := fun i =>
    (ofNat_ne_dot (by rw [Hangul.leadBase]; omega)).symm
  have hvowel : ∀ i, '.' ≠ Char.ofNat (Hangul.vowelBase + i) := fun i =>
    (ofNat_ne_dot (by rw [Hangul.vowelBase]; omega)).symm
  have htail : ∀ i, '.' ≠ Char.ofNat (Hangul.tailBase + i) := fun i =>
    (ofNat_ne_dot (by rw [Hangul.tailBase]; omega)).symm
  simp only [Hangul.parts?] at h
  split at h
  · split at h
    · obtain rfl := Option.some.inj h
      simp [hlead, hvowel]
    · obtain rfl := Option.some.inj h
      simp [hlead, hvowel, htail]
  · cases h

/-- The parts of a character are no dots. -/
lemma dot_notMem_parts? (h : parts? c = some t) : '.' ∉ t := by
  obtain ⟨entry, hentry, h⟩ := List.exists_of_findSome?_eq_some h
  split at h
  · next composed a b =>
    split at h
    · obtain rfl := Option.some.inj h
      have ha : Char.ofNat a ≠ '.' := ofNat_ne_dot (ne_dot_of_mem_composites hentry (by simp))
      have hb : Char.ofNat b ≠ '.' := ofNat_ne_dot (ne_dot_of_mem_composites hentry (by simp))
      simp [ha.symm, hb.symm]
    · cases h
  · cases h

/-- Two characters are not composed to a dot. -/
lemma compose?_ne_dot (h : compose? c d = some a) : a ≠ '.' := by
  rcases Option.or_eq_some_iff.mp h with h | ⟨-, h⟩
  · simp only [Hangul.compose?] at h
    split at h
    · obtain rfl := Option.some.inj h
      exact ofNat_ne_dot (by rw [Hangul.base]; omega)
    · split at h
      · next hbase =>
        obtain rfl := Option.some.inj h
        exact ofNat_ne_dot (by rw [Hangul.base] at hbase; omega)
      · cases h
  · obtain ⟨entry, hentry, h⟩ := List.exists_of_findSome?_eq_some h
    split at h
    · split at h
      · obtain rfl := Option.some.inj h
        exact ofNat_ne_dot (ne_dot_of_mem_composites hentry (by simp))
      · cases h
    · cases h

/-- No dot comes from taking characters apart. -/
lemma dot_notMem_takeApart (h : '.' ∉ t) : '.' ∉ takeApart t := by
  intro hmem
  obtain ⟨c, hc, hmem⟩ := List.mem_flatMap.mp hmem
  cases hparts : (Hangul.parts? c).or (parts? c) with
  | none =>
    rw [hparts, Option.getD_none, List.mem_singleton] at hmem
    exact h (hmem ▸ hc)
  | some parts =>
    rw [hparts, Option.getD_some] at hmem
    rcases Option.or_eq_some_iff.mp hparts with hparts | ⟨-, hparts⟩
    · exact dot_notMem_hangulParts? hparts hmem
    · exact dot_notMem_parts? hparts hmem

/-- Putting a mark in its place adds no other character. -/
lemma mem_insertMark (h : d ∈ insertMark c t) : d = c ∨ d ∈ t := by
  induction t with
  | nil => exact .inl (List.mem_singleton.mp h)
  | cons e t ih =>
    rw [insertMark] at h
    split at h
    · rcases List.mem_cons.mp h with rfl | h
      · exact .inr List.mem_cons_self
      · exact (ih h).imp_right (List.mem_cons_of_mem e)
    · exact List.mem_cons.mp h

/-- Ordering the marks adds no characters. -/
lemma mem_orderMarks (h : d ∈ orderMarks t) : d ∈ t := by
  induction t with
  | nil => exact h
  | cons c t ih =>
    rcases mem_insertMark h with rfl | h
    · exact List.mem_cons_self
    · exact List.mem_cons_of_mem c (ih h)

/-- No dot comes from composing a letter with what follows it. -/
lemma dot_notMem_composeFrom {letter : Char} {pending : Text} (hletter : letter ≠ '.') (hpending : '.' ∉ pending)
    (h : '.' ∉ t) : '.' ∉ composeFrom letter pending t := by
  induction t generalizing letter pending with
  | nil => exact fun hmem => (List.mem_cons.mp hmem).elim (hletter ·.symm) hpending
  | cons c t ih =>
    obtain ⟨hc, ht⟩ : '.' ≠ c ∧ '.' ∉ t := by simpa using h
    rw [composeFrom]
    split
    · next composed hcomposed =>
      split at hcomposed
      · cases hcomposed
      · exact ih (compose?_ne_dot hcomposed) hpending ht
    · split
      · intro hmem
        rcases List.mem_append.mp hmem with hmem | hmem
        · exact (List.mem_cons.mp hmem).elim (hletter ·.symm) hpending
        · exact ih hc.symm (by simp) ht hmem
      · exact ih hletter (by simp [hpending, hc]) ht

/-- No dot comes from composing a text. -/
lemma dot_notMem_putTogether (h : '.' ∉ t) : '.' ∉ putTogether t := by
  induction t with
  | nil => exact h
  | cons c t ih =>
    obtain ⟨hc, ht⟩ : '.' ≠ c ∧ '.' ∉ t := by simpa using h
    rw [putTogether]
    split
    · exact dot_notMem_composeFrom hc.symm (by simp) ht
    · exact fun hmem => (List.mem_cons.mp hmem).elim hc (ih ht)

/-- The composed form of a text without dots has none. -/
lemma dot_notMem_composedForm (h : '.' ∉ t) : '.' ∉ composedForm t :=
  dot_notMem_putTogether fun hmem => dot_notMem_takeApart (dot_notMem_takeApart h) (mem_orderMarks hmem)

/-! ## Labels that are read again -/

namespace Label

/-- A label whose ASCII form spells it, in small letters and without dots. -/
structure IsSettled (l : Label) : Prop where
  read : ofMapped? l.toAscii = some l
  isAscii : ∀ c ∈ l.toAscii, Text.isAscii c = true
  toLower : ∀ c ∈ l.toAscii, c.toLower = c
  dotless : '.' ∉ l.toAscii

/-- The longest label in Punycode whose text is read back for certain. -/
def maxReadable : Nat := 100

/-- A label beyond ASCII is the text that it was made of, and was checked. -/
lemma isLabel_of_beyond? {l : Label} (h : beyond? t = some l) :
    l = .beyond t ∧ isAsciiText t = false ∧ isLabel t = true := by
  rw [beyond?] at h
  split at h
  · next hcheck =>
    rw [Bool.and_eq_true, Bool.not_eq_true'] at hcheck
    exact ⟨(Option.some.inj h).symm, hcheck⟩
  · cases h

/-- A label is what was mapped, if that is ASCII, or else it was checked; no dot comes into it. -/
lemma of_ofMapped? {l : Label} (hdot : '.' ∉ t) (h : ofMapped? t = some l) :
    (l = .ascii t ∧ marker.isPrefixOf? t = none ∧ isAsciiText t = true) ∨
      ∃ u, l = .beyond u ∧ isAsciiText u = false ∧ isLabel u = true ∧ '.' ∉ u := by
  rw [ofMapped?] at h
  split at h
  · next encoded hmarker =>
    rw [ofEncoded?] at h
    split at h
    · obtain ⟨u, hu, h⟩ := Option.bind_eq_some_iff.mp h
      obtain ⟨rfl, hchecked⟩ := isLabel_of_beyond? h
      refine .inr ⟨u, rfl, hchecked.1, hchecked.2, fun hmem => ?_⟩
      -- a dot is ASCII, so it would have been there before
      rcases Punycode.of_mem_decode? hu hmem with hmem | hascii
      · obtain rfl := List.isPrefixOf?_eq_some_iff_append_eq.mp hmarker
        exact hdot (List.mem_append_right _ hmem)
      · cases hascii
    · cases h
  · next hmarker =>
    split at h
    · next hascii =>
      exact .inl ⟨(Option.some.inj h).symm, hmarker, hascii⟩
    · obtain ⟨rfl, hchecked⟩ := isLabel_of_beyond? h
      exact .inr ⟨_, rfl, hchecked.1, hchecked.2, dot_notMem_composedForm hdot⟩

/-- In a text that was checked as a label, a character of ASCII is a small one. -/
lemma toLower_of_isLabel (h : isLabel t = true) (hc : c ∈ t) (hascii : Text.isAscii c = true) : c.toLower = c := by
  simp only [isLabel, Bool.and_eq_true] at h
  have hkept : isKept c = true := List.all_eq_true.mp h.1.1.1.2 c hc
  rw [isKept, if_pos hascii] at hkept
  exact eq_of_beq hkept

section

variable {l : Label} (hdot : '.' ∉ t) (h : ofMapped? t = some l)

include hdot h

/-- What is written for a label of small letters has small letters, and no dots. -/
lemma of_mem_toAscii (hsmall : ∀ c ∈ t, c.toLower = c) (hc : c ∈ l.toAscii) : c.toLower = c ∧ c ≠ '.' := by
  rcases of_ofMapped? hdot h with ⟨rfl, -, -⟩ | ⟨u, rfl, -, hlabel, hdot⟩
  · exact ⟨hsmall c hc, fun heq => hdot (heq ▸ hc)⟩
  · rcases List.mem_append.mp hc with hc | hc
    · have hmarker : marker.all (fun c => c.toLower = c ∧ c ≠ '.') = true := by decide
      exact of_decide_eq_true (List.all_eq_true.mp hmarker c hc)
    · rcases Punycode.of_mem_encode hc with ⟨hc, hascii⟩ | rfl | ⟨digit, hdigit, rfl⟩
      · exact ⟨toLower_of_isLabel hlabel hc hascii, fun heq => hdot (heq ▸ hc)⟩
      · decide
      · have hall : ∀ d, d < 36 → (Punycode.digitChar d).toLower = Punycode.digitChar d ∧
            Punycode.digitChar d ≠ '.' := by decide
        exact hall digit hdigit

/-- A label is settled, unless it is too long for every number in its Punycode to be read. -/
theorem isSettled_of_ofMapped? (hsmall : ∀ c ∈ t, c.toLower = c) (hlength : l.toAscii.length ≤ maxReadable) :
    l.IsSettled := by
  refine ⟨?_, fun c => isAscii_of_mem_toAscii h, fun c hc => (of_mem_toAscii hdot h hsmall hc).1, fun hc =>
    (of_mem_toAscii hdot h hsmall hc).2 rfl⟩
  rcases of_ofMapped? hdot h with ⟨rfl, -, -⟩ | ⟨u, rfl, hascii, hlabel, -⟩
  · exact h
  · have hencoded : (Punycode.encode u).length ≤ maxReadable := by
      rw [toAscii, List.length_append] at hlength
      omega
    -- a text has no more characters than its Punycode, and so few make numbers that can be read
    have hdecoded : Punycode.decode? (Punycode.encode u) = some u := by
      refine Punycode.decode?_encode ?_
      have hlength := (Punycode.length_le_encode u).trans hencoded
      have hmax : 0x110000 * maxReadable ≤ Punycode.maxNumber := by decide
      exact (Nat.mul_le_mul_left _ hlength).trans hmax
    have hread : isAsciiText (Punycode.encode u) = true ∧ (Punycode.encode u).length ≤ maxEncoded := by
      refine ⟨List.all_eq_true.mpr fun c => Punycode.isAscii_of_mem_encode, hencoded.trans ?_⟩
      decide
    have hmarker : marker.isPrefixOf? (toAscii (.beyond u)) = some (Punycode.encode u) :=
      List.isPrefixOf?_eq_some_iff_append_eq.mpr rfl
    rw [ofMapped?, hmarker]
    show ofEncoded? (Punycode.encode u) = _
    rw [ofEncoded?, if_pos hread, hdecoded, Option.bind_some, beyond?, hascii, hlabel]
    rfl

/-- Only an empty text gives a label with an empty ASCII form. -/
lemma toAscii_eq_nil_iff : t = [] ↔ l.toAscii = [] := by
  rcases of_ofMapped? hdot h with ⟨rfl, -, -⟩ | ⟨u, rfl, hascii, -, -⟩
  · rfl
  · refine iff_of_false ?_ fun hnil => ?_
    · rintro rfl
      cases h
    · have hlength := congrArg List.length hnil
      rw [toAscii, List.length_append] at hlength
      exact absurd (Nat.eq_zero_of_add_eq_zero_right hlength) (by decide)

end

end Label

/-! ## Names that are read again -/

/-- Fewer labels have suited directions if more of them have. -/
lemma haveSuitedDirections_of_subset {ls ls' : List Label} (hsub : ls' ⊆ ls) (h : haveSuitedDirections ls = true) :
    haveSuitedDirections ls' = true := by
  rw [haveSuitedDirections, Bool.or_eq_true, Bool.not_eq_true', List.any_eq_false, List.all_eq_true] at h ⊢
  exact h.imp (fun h l hl => h l (hsub hl)) fun h l hl => h l (hsub hl)

/-- Settled labels are read back from their ASCII forms. -/
lemma mapM_ofMapped?_toAscii {ls : List Label} (hls : ∀ l ∈ ls, l.IsSettled) :
    (ls.map Label.toAscii).mapM Label.ofMapped? = some ls := by
  induction ls with
  | nil => rfl
  | cons l ls ih =>
    obtain ⟨hl, hls⟩ := List.forall_mem_cons.mp hls
    rw [List.map_cons, List.mapM_cons, hl.read, ih hls]
    rfl

/-- A name of settled labels is its own ASCII form. -/
theorem toAscii?_join {ls : List Label} (hne : ls ≠ []) (hls : ∀ l ∈ ls, l.IsSettled)
    (hdirections : haveSuitedDirections ls = true) :
    toAscii? (Text.join ['.'] (ls.map Label.toAscii)) = some (Text.join ['.'] (ls.map Label.toAscii)) := by
  have hmapped : mapText (Text.join ['.'] (ls.map Label.toAscii)) = some (Text.join ['.'] (ls.map Label.toAscii)) := by
    refine mapText_eq_self fun c hc => ?_
    rcases Text.mem_join hc with rfl | ⟨u, hu, hc⟩
    · decide
    · obtain ⟨l, hl, rfl⟩ := List.mem_map.mp hu
      exact ⟨(hls l hl).isAscii c hc, (hls l hl).toLower c hc⟩
  have hpieces : Text.pieces (· == '.') (Text.join ['.'] (ls.map Label.toAscii)) = ls.map Label.toAscii := by
    refine Text.pieces_join (fun u hu => ?_) (by simpa using hne)
    obtain ⟨l, hl, rfl⟩ := List.mem_map.mp hu
    exact (hls l hl).dotless
  have hlabels : labels? (Text.join ['.'] (ls.map Label.toAscii)) = some ls := by
    rw [labels?, hmapped]
    show Option.bind (List.mapM _ (Text.pieces _ _)) _ = _
    rw [hpieces, mapM_ofMapped?_toAscii hls, Option.bind_some, if_pos hdirections]
  rw [toAscii?, hlabels, Option.map_some]

end SenderPolicy.Idna
