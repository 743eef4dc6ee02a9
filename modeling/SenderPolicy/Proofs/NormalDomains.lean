import SenderPolicy.Proofs.AsciiForm

/-!
# Domains in normal form

The normal form of a domain is in small ASCII letters, and without one dot at its end it is a name of at least two
labels that fits, is its own normal form, and is the normal form of the normal form (`isNormal_of_normalize`). The dot
is there if and only if mapping left one at the end: the dots of the domain are dropped before it is mapped, and a full
stop of another script becomes a dot only then.
-/

namespace SenderPolicy.DomainName

variable {name a b : Text}

/-! ## Valid names -/

/-- A name in normal form: one that a query is about as it stands. -/
structure IsNormal (name : Text) : Prop where
  isAscii : ∀ c ∈ name, Text.isAscii c = true
  isUpper : ∀ c ∈ name, c.isUpper = false
  two_le : 2 ≤ (labels name).length
  labels : ∀ label ∈ labels name, label ≠ [] ∧ Text.byteLength label ≤ maxLabelLength
  byteLength_le : Text.byteLength name ≤ maxLength
  getLast?_ne : name.getLast? ≠ some '.'
  normalize_eq : normalize name = .ok name

/-- A character of ASCII that is its own small letter is no capital. -/
lemma isUpper_of_toLower {c : Char} (hascii : Text.isAscii c = true) (h : c.toLower = c) : c.isUpper = false := by
  have hall : ∀ n, n < 0x80 → (Char.ofNat n).toLower = Char.ofNat n → (Char.ofNat n).isUpper = false := by decide
  rw [← Char.ofNat_toNat c] at h ⊢
  exact hall c.toNat (of_decide_eq_true hascii) h

/-- No label of a name has a dot. -/
lemma dot_notMem_of_mem_labels {label : Text} (h : label ∈ labels name) : '.' ∉ label := by
  intro hmem
  cases Text.of_mem_pieces h hmem

/-- Every name has a label. -/
lemma labels_ne_nil (name : Text) : labels name ≠ [] :=
  List.splitOnP_ne_nil _ name

/-- A name with a dot has two labels at least. -/
lemma two_le_length_labels (h : '.' ∈ name) : 2 ≤ (labels name).length := by
  have hpos : 0 < (labels name).length := List.length_pos_iff.mpr (labels_ne_nil name)
  by_contra hlt
  obtain ⟨label, hlabel⟩ := List.length_eq_one_iff.mp (show (labels name).length = 1 by omega)
  have hname := join_labels name
  rw [hlabel, Text.join, List.intercalate_singleton] at hname
  exact dot_notMem_of_mem_labels (hlabel ▸ List.mem_singleton_self label) (hname ▸ h)

/-- A name without empty labels does not end in a dot. -/
lemma getLast?_ne_dot (h : ∀ label ∈ labels name, label ≠ []) : name.getLast? ≠ some '.' := by
  intro hlast
  rw [← join_labels name, Text.getLast?_join_iff fun label => dot_notMem_of_mem_labels] at hlast
  exact h [] (List.mem_of_getLast? hlast.2) rfl

/-- A name that does not end in a dot loses none. -/
lemma dropDot_of_getLast?_ne (h : name.getLast? ≠ some '.') : Text.dropDot name = name :=
  if_neg h

/-- What is left without the dot was there before. -/
lemma mem_of_mem_dropDot {c : Char} (hc : c ∈ Text.dropDot name) : c ∈ name := by
  rw [Text.dropDot] at hc
  split at hc
  · exact List.dropLast_subset _ hc
  · exact hc

/-- A text has no fewer bytes than characters. -/
lemma length_le_byteLength (t : Text) : t.length ≤ Text.byteLength t := by
  induction t with
  | nil => exact Nat.le_refl _
  | cons c t ih =>
    have hsize := Char.utf8Size_pos c
    rw [List.length_cons, Text.byteLength]
    omega

/-! ## Names that are normalised again -/

/-- Blanks around a domain and dots at its end make no difference. -/
lemma normalize_congr (h : Text.dropDots (Text.trim a) = Text.dropDots (Text.trim b)) : normalize a = normalize b := by
  rw [normalize, normalize, h]

/-- A valid name that is its own ASCII form is its own normal form. -/
lemma normalize_eq_self (hblank : ∀ c ∈ name, Text.isBlank c = false) (hdot : name.getLast? ≠ some '.')
    (hascii : Idna.toAscii? name = some name) (hfault : fault? name = none) : normalize name = .ok name := by
  have hne : name ≠ [] := by
    rintro rfl
    cases hfault
  rw [normalize]
  simp only [Text.trim_eq_of_unblank hblank, Text.dropDots_of_getLast?_ne hdot, List.isEmpty_eq_false_iff.mpr hne, hascii,
    hfault, Bool.false_eq_true, if_false]

/-- One dot at the end is no fault, and is not seen by the check. -/
lemma fault?_dropDot (h : (Text.dropDot name).getLast? ≠ some '.') : fault? (Text.dropDot name) = fault? name := by
  simp only [fault?, dropDot_of_getLast?_ne h]

/-! ## The ASCII form of a domain -/

section

variable {t mapped : Text} {ls : List Idna.Label} (hmapped : Idna.mapText t = some mapped)
  (hls : (Text.pieces (· == '.') mapped).mapM Idna.Label.ofMapped? = some ls)

include hls in
/-- A mapped text has a label, if only an empty one. -/
lemma join_ne_nil : ls ≠ [] := by
  rintro rfl
  have hlength := (Idna.forall₂_of_mapM hls).length_eq
  exact labels_ne_nil mapped (List.length_eq_zero_iff.mp hlength)

include hmapped hls

/-- A label is read from a text in small letters without dots. -/
lemma exists_of_mem_labels {l : Idna.Label} (hl : l ∈ ls) :
    ∃ u, '.' ∉ u ∧ (∀ c ∈ u, c.toLower = c) ∧ Idna.Label.ofMapped? u = some l := by
  obtain ⟨u, hu, hread⟩ := Idna.exists_of_mem_mapM hls hl
  refine ⟨u, dot_notMem_of_mem_labels hu, fun c hc => ?_, hread⟩
  refine Idna.toLower_of_mapText hmapped ?_
  rw [← join_labels mapped]
  exact Text.mem_join_of_mem hu hc

/-- The ASCII forms of labels have no dots. -/
lemma dot_notMem_of_mem_map : ∀ u ∈ ls.map Idna.Label.toAscii, '.' ∉ u := by
  intro u hu hmem
  obtain ⟨l, hl, rfl⟩ := List.mem_map.mp hu
  obtain ⟨u, hdot, hsmall, hread⟩ := exists_of_mem_labels hmapped hls hl
  exact (Idna.Label.of_mem_toAscii hdot hread hsmall hmem).2 rfl

/-- The labels end in an empty one exactly if the mapped text ends in a dot. -/
lemma getLast?_join_toAscii_iff :
    (Text.join ['.'] (ls.map Idna.Label.toAscii)).getLast? = some '.' ↔ mapped.getLast? = some '.' := by
  have hread := Idna.forall₂_of_mapM hls
  -- the labels correspond, also turned round, so it is enough to look at the first ones
  have hempty : (Text.pieces (· == '.') mapped).getLast? = some [] ↔
      (ls.map Idna.Label.toAscii).getLast? = some [] := by
    rw [← List.head?_reverse, ← List.head?_reverse, ← List.map_reverse]
    generalize hts : (Text.pieces (· == '.') mapped).reverse = ts
    generalize hus : ls.reverse = us
    have hreverse := List.forall₂_reverse_iff.mpr hread
    rw [hts, hus] at hreverse
    cases hreverse with
    | nil => rfl
    | @cons u l ts ls hlast _ =>
      have hu : u ∈ Text.pieces (· == '.') mapped := by
        rw [← List.mem_reverse, hts]
        exact List.mem_cons_self
      rw [List.map_cons, List.head?_cons, List.head?_cons, Option.some_inj, Option.some_inj]
      exact Idna.Label.toAscii_eq_nil_iff (dot_notMem_of_mem_labels hu) hlast
  have hjoin := @Text.getLast?_join_iff '.' (labels mapped) fun _u => dot_notMem_of_mem_labels
  rw [join_labels] at hjoin
  rw [Text.getLast?_join_iff (dot_notMem_of_mem_map hmapped hls), List.length_map, ← hread.length_eq, ← hempty]
  exact hjoin.symm

end

/-- Without the dot that it may end in, the normal form is joined of settled labels. -/
lemma exists_settled {t : Text} (hascii : Idna.toAscii? t = some name) (hfault : fault? name = none) :
    ∃ ls : List Idna.Label, ls ≠ [] ∧ (∀ l ∈ ls, l.IsSettled) ∧ Idna.haveSuitedDirections ls = true ∧
      Text.dropDot name = Text.join ['.'] (ls.map Idna.Label.toAscii) := by
  obtain ⟨mapped, ls, hmapped, hls, hdirections, hname⟩ := Idna.exists_of_toAscii? hascii
  -- the labels that are left when the last one is dropped for being empty
  obtain ⟨kept, hkept, hsubset, hjoin⟩ : ∃ kept : List Idna.Label, kept ≠ [] ∧ kept ⊆ ls ∧
      Text.dropDot name = Text.join ['.'] (kept.map Idna.Label.toAscii) := by
    by_cases hdot : name.getLast? = some '.'
    · have hends := hdot
      rw [hname, Text.getLast?_join_iff (dot_notMem_of_mem_map hmapped hls), List.length_map] at hends
      obtain ⟨htwo, hlast⟩ := hends
      obtain ⟨front, l, rfl⟩ := (List.eq_nil_or_concat ls).resolve_left (join_ne_nil hls)
      rw [List.concat_eq_append] at htwo hlast hname ⊢
      have hfront : front ≠ [] := by
        rintro rfl
        simp at htwo
      rw [List.map_append, List.map_singleton, List.getLast?_concat, Option.some_inj] at hlast
      refine ⟨front, hfront, List.subset_append_left front [l], ?_⟩
      rw [Text.dropDot, if_pos hdot, hname, List.map_append, List.map_singleton, hlast,
        Text.join_concat _ (by simpa using hfront), List.append_nil, List.dropLast_concat]
    · exact ⟨ls, join_ne_nil hls, List.Subset.refl ls, (dropDot_of_getLast?_ne hdot).trans hname⟩
  refine ⟨kept, hkept, fun l hl => ?_, Idna.haveSuitedDirections_of_subset hsubset hdirections, hjoin⟩
  have hlength : l.toAscii.length ≤ Idna.Label.maxReadable := by
    have hlabels : labels (Text.dropDot name) = kept.map Idna.Label.toAscii := by
      rw [hjoin]
      refine Text.pieces_join (fun u hu => ?_) (by simpa using hkept)
      exact dot_notMem_of_mem_map hmapped hls u (List.map_subset _ hsubset hu)
    have hmem : l.toAscii ∈ labels (Text.dropDot name) := hlabels ▸ List.mem_map_of_mem hl
    have hfits := ((of_fault?_eq_none hfault).2.2 l.toAscii hmem).2.1
    have hmax : maxLabelLength ≤ Idna.Label.maxReadable := by decide
    exact (length_le_byteLength l.toAscii).trans (hfits.trans hmax)
  obtain ⟨u, hdot, hsmall, hread⟩ := exists_of_mem_labels hmapped hls (hsubset hl)
  exact Idna.Label.isSettled_of_ofMapped? hdot hread hsmall hlength

/-! ## Normal forms -/

section

variable {domain : Text} (h : normalize domain = .ok name)

include h

/-- A normal form is in small ASCII letters. -/
lemma isSmall_of_normalize {c : Char} (hc : c ∈ name) : Text.isAscii c = true ∧ c.isUpper = false := by
  obtain ⟨hascii, -⟩ := of_normalize h
  have hc' := Idna.isAscii_of_toAscii? hascii hc
  refine ⟨hc', isUpper_of_toLower hc' ?_⟩
  obtain ⟨mapped, ls, hmapped, hls, -, rfl⟩ := Idna.exists_of_toAscii? hascii
  rcases Text.mem_join hc with rfl | ⟨u, hu, hc⟩
  · rfl
  · obtain ⟨l, hl, rfl⟩ := List.mem_map.mp hu
    obtain ⟨u, hdot, hsmall, hread⟩ := exists_of_mem_labels hmapped hls hl
    exact (Idna.Label.of_mem_toAscii hdot hread hsmall hc).1

/-- A normal form ends in one dot at most. -/
lemma getLast?_dropDot_ne : (Text.dropDot name).getLast? ≠ some '.' :=
  getLast?_ne_dot fun label hlabel => ((of_fault?_eq_none (of_normalize h).2).2.2 label hlabel).1

/-- Without the dot that it may end in, a normal form is its own. -/
lemma normalize_dropDot : normalize (Text.dropDot name) = .ok (Text.dropDot name) := by
  obtain ⟨hascii, hfault⟩ := of_normalize h
  have hlast := getLast?_dropDot_ne h
  obtain ⟨ls, hne, hsettled, hdirections, hjoin⟩ := exists_settled hascii hfault
  refine normalize_eq_self (fun c hc => normalize_unblank h c (mem_of_mem_dropDot hc)) hlast ?_ ?_
  · rw [hjoin]
    exact Idna.toAscii?_join hne hsettled hdirections
  · rwa [fault?_dropDot hlast]

/-- Without the dot that it may end in, a normal form is a name in normal form. -/
lemma isNormal_dropDot : IsNormal (Text.dropDot name) where
  isAscii _ hc := (isSmall_of_normalize h (mem_of_mem_dropDot hc)).1
  isUpper _ hc := (isSmall_of_normalize h (mem_of_mem_dropDot hc)).2
  two_le := two_le_length_labels (of_fault?_eq_none (of_normalize h).2).2.1
  labels label hlabel := ((of_fault?_eq_none (of_normalize h).2).2.2 label hlabel).imp_right And.left
  byteLength_le := (of_fault?_eq_none (of_normalize h).2).1
  getLast?_ne := getLast?_dropDot_ne h
  normalize_eq := normalize_dropDot h

/-- And it is the normal form of the normal form. -/
lemma normalize_normalize : normalize name = .ok (Text.dropDot name) := by
  rw [← normalize_dropDot h]
  refine normalize_congr ?_
  rw [Text.trim_eq_of_unblank (normalize_unblank h),
    Text.trim_eq_of_unblank fun c hc => normalize_unblank h c (mem_of_mem_dropDot hc)]
  by_cases hdot : name.getLast? = some '.'
  · obtain ⟨front, rfl⟩ := List.getLast?_eq_some_iff.mp hdot
    rw [Text.dropDot, if_pos hdot, List.dropLast_concat, Text.dropDots_append_dot]
  · rw [dropDot_of_getLast?_ne hdot]

/-- The normal form of a domain is in small ASCII letters. Without one dot at its end, it is a name of at least two
labels that fits and is its own normal form, and that name is what the normal form has for its own. The dot is missing,
so that the normal form is such a name itself, if and only if mapping left no dot at the end of the domain. -/
theorem isNormal_of_normalize :
    (∀ c ∈ name, Text.isAscii c = true ∧ c.isUpper = false) ∧
    IsNormal (Text.dropDot name) ∧ normalize name = .ok (Text.dropDot name) ∧
    (IsNormal name ↔
      ∀ mapped, Idna.mapText (Text.dropDots (Text.trim domain)) = some mapped → mapped.getLast? ≠ some '.') := by
  refine ⟨fun c => isSmall_of_normalize h, isNormal_dropDot h, normalize_normalize h, ?_⟩
  obtain ⟨mapped, ls, hmapped, hls, -, hname⟩ := Idna.exists_of_toAscii? (of_normalize h).1
  have hends := getLast?_join_toAscii_iff hmapped hls
  rw [← hname] at hends
  constructor
  · intro hnormal mapped' hmapped'
    obtain rfl := Option.some.inj (hmapped.symm.trans hmapped')
    exact mt hends.mpr hnormal.getLast?_ne
  · intro hno
    have hlast : name.getLast? ≠ some '.' := mt hends.mp (hno mapped hmapped)
    rw [← dropDot_of_getLast?_ne hlast]
    exact isNormal_dropDot h

end

/-- Capitals and one dot at the end are gone for good. -/
theorem isNormal_of_normalize_capitals :
    normalize "Example.COM.".toList = .ok "example.com".toList ∧ IsNormal "example.com".toList := by
  have h : normalize "Example.COM.".toList = .ok "example.com".toList := by decide +kernel
  exact ⟨h, (isNormal_of_normalize h).2.1⟩

/-- An ideographic full stop at the end becomes a dot that stays, so this normal form is not its own. -/
theorem normalize_fullStop :
    ¬∀ domain name, normalize domain = .ok name → IsNormal name := by
  intro hall
  have h : normalize "example.com。".toList = .ok "example.com.".toList := by decide +kernel
  exact (hall _ _ h).getLast?_ne rfl

end SenderPolicy.DomainName
