import SenderPolicy.Domain.Normal
import SenderPolicy.Proofs.Punycode

/-!
# What a normal form holds

The normal form of a domain is ASCII, since what is not becomes Punycode, and it has no blanks and no control characters
(`normalize_unblank`). An at sign is another matter: no check of a name looks for it.
-/

namespace SenderPolicy

/-! ## ASCII forms -/

namespace Idna

/-- A label that is read as ASCII is ASCII. -/
lemma Label.isAsciiText_of_ofMapped? {t u : Text} (h : ofMapped? t = some (.ascii u)) : isAsciiText u = true := by
  have hbeyond : ∀ v, beyond? v ≠ some (.ascii u) := by
    intro v hv
    rw [beyond?] at hv
    split at hv
    · cases hv
    · cases hv
  rw [ofMapped?] at h
  split at h
  · rw [ofEncoded?] at h
    split at h
    · obtain ⟨v, -, hv⟩ := Option.bind_eq_some_iff.mp h
      exact absurd hv (hbeyond v)
    · cases h
  · split at h
    · next hascii =>
      obtain rfl := Label.ascii.inj (Option.some.inj h)
      exact hascii
    · exact absurd h (hbeyond _)

/-- What is written for a label is ASCII. -/
lemma Label.isAscii_of_mem_toAscii {t : Text} {l : Label} (h : ofMapped? t = some l) {c : Char} (hc : c ∈ l.toAscii) :
    Text.isAscii c = true := by
  cases l with
  | ascii u => exact List.all_eq_true.mp (isAsciiText_of_ofMapped? h) c hc
  | beyond u =>
    rcases List.mem_append.mp hc with hc | hc
    · have hmarker : marker.all Text.isAscii = true := by decide
      exact List.all_eq_true.mp hmarker c hc
    · exact Punycode.isAscii_of_mem_encode hc

/-- A list is mapped to the list of what its members are mapped to. -/
lemma forall₂_of_mapM {α β : Type} {f : α → Option β} {xs : List α} {ys : List β} (h : xs.mapM f = some ys) :
    List.Forall₂ (fun x y => f x = some y) xs ys := by
  induction xs generalizing ys with
  | nil =>
    obtain rfl := Option.some.inj h
    exact .nil
  | cons x xs ih =>
    rw [List.mapM_cons] at h
    obtain ⟨first, hfirst, h⟩ := Option.bind_eq_some_iff.mp h
    obtain ⟨rest, hrest, h⟩ := Option.bind_eq_some_iff.mp h
    obtain rfl := Option.some.inj h
    exact .cons hfirst (ih hrest)

/-- What is in a mapped list is what a member is mapped to. -/
lemma exists_of_mem_mapM {α β : Type} {f : α → Option β} {xs : List α} {ys : List β} (h : xs.mapM f = some ys) {y : β}
    (hy : y ∈ ys) : ∃ x ∈ xs, f x = some y := by
  replace h := forall₂_of_mapM h
  induction h with
  | nil => cases hy
  | @cons x _ xs _ hfirst _ ih =>
    rcases List.mem_cons.mp hy with rfl | hy
    · exact ⟨x, List.mem_cons_self, hfirst⟩
    · obtain ⟨x', hx', hy⟩ := ih hy
      exact ⟨x', List.mem_cons_of_mem x hx', hy⟩

/-- The labels of an ASCII form are those of the mapped text. -/
lemma exists_of_toAscii? {t name : Text} (h : toAscii? t = some name) :
    ∃ mapped ls, mapText t = some mapped ∧ (Text.pieces (· == '.') mapped).mapM Label.ofMapped? = some ls ∧
      haveSuitedDirections ls = true ∧ name = Text.join ['.'] (ls.map Label.toAscii) := by
  obtain ⟨labels, hlabels, rfl⟩ := Option.map_eq_some_iff.mp h
  obtain ⟨mapped, hmapped, h⟩ := Option.bind_eq_some_iff.mp hlabels
  obtain ⟨ls, hls, h⟩ := Option.bind_eq_some_iff.mp h
  split at h
  · next hdirections =>
    obtain rfl := Option.some.inj h
    exact ⟨mapped, ls, hmapped, hls, hdirections, rfl⟩
  · cases h

/-- An ASCII form is ASCII. -/
theorem isAscii_of_toAscii? {t name : Text} (h : toAscii? t = some name) {c : Char} (hc : c ∈ name) :
    Text.isAscii c = true := by
  obtain ⟨mapped, ls, -, hls, -, rfl⟩ := exists_of_toAscii? h
  rcases Text.mem_join hc with rfl | ⟨u, hu, hc⟩
  · rfl
  · obtain ⟨l, hl, rfl⟩ := List.mem_map.mp hu
    obtain ⟨t, -, ht⟩ := exists_of_mem_mapM hls hl
    exact Label.isAscii_of_mem_toAscii ht hc

end Idna

/-! ## Valid names -/

namespace DomainName

variable {name : Text} {c : Char}

/-- A label without a fault is not empty, fits, and holds nothing that is forbidden. -/
lemma of_labelFault?_eq_none {label : Text} (h : labelFault? label = none) :
    label ≠ [] ∧ Text.byteLength label ≤ maxLabelLength ∧ ∀ c ∈ label, isForbidden c = false := by
  rw [labelFault?] at h
  split at h
  · cases h
  · next hempty =>
    split at h
    · cases h
    · next hlength =>
      split at h
      · cases h
      · next hany =>
        rw [Bool.not_eq_true, List.any_eq_false] at hany
        rw [Bool.not_eq_true, List.isEmpty_eq_false_iff] at hempty
        exact ⟨hempty, Nat.le_of_not_lt hlength, fun c hc => Bool.eq_false_iff.mpr (hany c hc)⟩

/-- A name without a fault fits, apart from one dot at its end, and so do its labels. -/
lemma of_fault?_eq_none (h : fault? name = none) :
    Text.byteLength (Text.dropDot name) ≤ maxLength ∧ '.' ∈ Text.dropDot name ∧
      ∀ label ∈ labels (Text.dropDot name), label ≠ [] ∧ Text.byteLength label ≤ maxLabelLength ∧
        ∀ c ∈ label, isForbidden c = false := by
  simp only [fault?] at h
  split at h
  · cases h
  · split at h
    · cases h
    · next hlength =>
      split at h
      · cases h
      · next hdot =>
        rw [Bool.not_eq_true, Bool.not_eq_false', List.contains_iff_mem] at hdot
        exact ⟨Nat.le_of_not_lt hlength, hdot, fun label hlabel =>
          of_labelFault?_eq_none (List.findSome?_eq_none_iff.mp h label hlabel)⟩

/-- A character of a name is the dot at its end or stays without it. -/
lemma mem_dropDot_or (hc : c ∈ name) : c ∈ Text.dropDot name ∨ c = '.' := by
  rw [Text.dropDot]
  split
  · next hdot =>
    obtain ⟨front, rfl⟩ := List.getLast?_eq_some_iff.mp hdot
    rw [List.dropLast_concat]
    exact (List.mem_append.mp hc).imp_right List.mem_singleton.mp
  · exact .inl hc

/-- The labels of a name make up the name. -/
lemma join_labels (name : Text) : Text.join ['.'] (labels name) = name :=
  List.intercalate_splitOn '.'

/-- A valid name has no ASCII blanks and no control characters. -/
lemma isForbidden_of_isValid (h : isValid name = true) (hc : c ∈ name) : isForbidden c = false := by
  rw [isValid, Option.isNone_iff_eq_none] at h
  obtain ⟨-, -, hlabels⟩ := of_fault?_eq_none h
  rcases mem_dropDot_or hc with hc | rfl
  · rw [← join_labels (Text.dropDot name)] at hc
    rcases Text.mem_join hc with rfl | ⟨label, hlabel, hc⟩
    · rfl
    · exact (hlabels label hlabel).2.2 c hc
  · rfl

/-- Every blank of ASCII is forbidden. -/
lemma isBlank_of_isForbidden (hascii : Text.isAscii c = true) (h : isForbidden c = false) : Text.isBlank c = false := by
  simp only [Text.isAscii, decide_eq_true_eq] at hascii
  simp only [isForbidden, Bool.or_eq_false_iff, decide_eq_false_iff_not, beq_eq_false_iff_ne] at h
  rw [← Bool.not_eq_true]
  simp only [Text.isBlank, Bool.or_eq_true, Bool.and_eq_true, decide_eq_true_eq, beq_iff_eq]
  omega

/-- A normal form is the ASCII form of the domain without blanks around it and dots at its end. -/
lemma of_normalize {domain : Text} (h : normalize domain = .ok name) :
    Idna.toAscii? (Text.dropDots (Text.trim domain)) = some name ∧ fault? name = none := by
  simp only [normalize] at h
  split at h
  · cases h
  · split at h
    · cases h
    · next ascii hascii =>
      split at h
      · cases h
      · next hfault =>
        obtain rfl := Except.ok.inj h
        exact ⟨hascii, hfault⟩

/-- A normal form has no blanks. -/
theorem normalize_unblank {domain : Text} (h : normalize domain = .ok name) : ∀ c ∈ name, Text.isBlank c = false :=
  fun _c hc => isBlank_of_isForbidden (Idna.isAscii_of_toAscii? (of_normalize h).1 hc)
    (isForbidden_of_isValid (isValid_of_normalize h) hc)

end DomainName

end SenderPolicy
