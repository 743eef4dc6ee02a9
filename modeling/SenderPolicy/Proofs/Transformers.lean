import SenderPolicy.Proofs.Templates

/-!
# Labels of a value

What a transformer does to the labels of a value: they are perhaps turned round, and the last of them are kept. The
labels of the result are just those that were kept, if a dot ends a label (`Transformer.pieces_apply`), so transformers
may be applied one after the other label by label. Delimiters of other kinds are dots in disguise
(`Transformer.apply_dotted`).
-/

namespace SenderPolicy

namespace Transformer

variable {f : Transformer} {v : Text} {keep : Option Nat} {reverse : Bool} {delimiters : List Char}

/-- The labels of a value, turned round if that is asked for. -/
def labels (f : Transformer) (v : Text) : List Text :=
  if f.reverse then (Text.pieces f.isDelimiter v).reverse else Text.pieces f.isDelimiter v

/-- A transformer joins the labels that are kept with dots. -/
lemma apply_eq (f : Transformer) (v : Text) : f.apply v = Text.join ['.'] (f.kept (f.labels v)) := rfl

/-- Turning labels round leaves their number. -/
lemma length_labels (f : Transformer) (v : Text) : (f.labels v).length = (Text.pieces f.isDelimiter v).length := by
  rw [labels]
  split
  · exact List.length_reverse
  · rfl

/-- Every value has a label, if an empty one. -/
lemma labels_ne_nil (f : Transformer) (v : Text) : f.labels v ≠ [] := by
  rw [← List.length_pos_iff, length_labels, List.length_pos_iff]
  exact List.splitOnP_ne_nil f.isDelimiter v

/-- Turning labels round leaves them the same. -/
lemma mem_labels {label : Text} : label ∈ f.labels v ↔ label ∈ Text.pieces f.isDelimiter v := by
  rw [labels]
  split
  · exact List.mem_reverse
  · rfl

/-- The last labels are kept. -/
lemma kept_suffix (f : Transformer) (labels : List Text) : f.kept labels <:+ labels := by
  rw [kept]
  split
  · exact List.suffix_refl labels
  · exact List.drop_suffix _ labels

/-- As many labels are kept as there are, or as were asked for if those are fewer. -/
lemma length_kept {k : Nat} (hk : f.keep = some k) (labels : List Text) :
    (f.kept labels).length = min k labels.length := by
  rw [kept, hk]
  dsimp only
  rw [List.length_drop]
  omega

/-- Some label is kept, unless none is to be kept. -/
lemma kept_ne_nil {labels : List Text} (hkeep : f.keep ≠ some 0) (hne : labels ≠ []) : f.kept labels ≠ [] := by
  cases hk : f.keep with
  | none =>
    rw [kept, hk]
    exact hne
  | some k =>
    have hk0 : k ≠ 0 := fun h => hkeep (h ▸ hk)
    have hlength := List.length_pos_iff.mpr hne
    rw [← List.length_pos_iff, length_kept hk]
    omega

/-- If a dot ends a label, the labels of the result are those that were kept. -/
lemma pieces_apply (hdot : f.isDelimiter '.' = true) (hkeep : f.keep ≠ some 0) (v : Text) :
    Text.pieces (· == '.') (f.apply v) = f.kept (f.labels v) := by
  refine Text.pieces_join (fun label hlabel hmem => ?_) (kept_ne_nil hkeep (f.labels_ne_nil v))
  have hpiece := mem_labels.mp ((f.kept_suffix _).subset hlabel)
  exact Bool.eq_false_iff.mp (Text.of_mem_pieces hpiece hmem) hdot

/-! ## Transformers in a row -/

/-- A value without characters keeps its one label, if any. -/
lemma apply_nil (f : Transformer) : f.apply [] = [] := by
  have hlabels : f.labels [] = [[]] := by
    rw [labels, Text.pieces, List.splitOnP_nil]
    split
    · rfl
    · rfl
  rw [apply_eq, hlabels]
  rcases List.suffix_cons_iff.mp (f.kept_suffix [[]]) with hkept | hkept
  · rw [hkept]
    rfl
  · rw [List.suffix_nil.mp hkept]
    rfl

/-- Without a label to keep, nothing is left. -/
lemma apply_keep_zero (v : Text) : apply ⟨some 0, reverse, delimiters⟩ v = [] := by
  have hkept : ∀ labels, kept ⟨some 0, reverse, delimiters⟩ labels = [] := fun labels =>
    List.drop_length
  rw [apply_eq, hkept]
  rfl

/-- Turned round twice, the labels are in the order in which they were. -/
lemma apply_reverse_reverse (v : Text) : apply ⟨none, true, []⟩ (apply ⟨none, true, []⟩ v) = v := by
  have hpieces : Text.pieces (· == '.') (apply ⟨none, true, []⟩ v) = (Text.pieces (· == '.') v).reverse :=
    pieces_apply rfl (by simp) v
  calc apply ⟨none, true, []⟩ (apply ⟨none, true, []⟩ v)
      = Text.join ['.'] (Text.pieces (· == '.') (apply ⟨none, true, []⟩ v)).reverse := rfl
    _ = Text.join ['.'] (Text.pieces (· == '.') v) := by rw [hpieces, List.reverse_reverse]
    _ = v := List.intercalate_splitOn '.'

/-- The last of the last labels are the last ones. -/
lemma kept_kept (j k : Nat) (labels : List Text) :
    kept ⟨some j, false, []⟩ (kept ⟨some k, false, []⟩ labels) = kept ⟨some (min j k), false, []⟩ labels := by
  simp only [kept, List.drop_drop, List.length_drop]
  congr 1
  omega

/-- Of the last labels, as many are kept as the smaller of two numbers says. -/
lemma apply_keep_keep (j k : Nat) (v : Text) :
    apply ⟨some j, false, []⟩ (apply ⟨some k, false, []⟩ v) = apply ⟨some (min j k), false, []⟩ v := by
  cases k with
  | zero => rw [apply_keep_zero, apply_nil, Nat.min_zero, apply_keep_zero]
  | succ k =>
    have hpieces : Text.pieces (· == '.') (apply ⟨some (k + 1), false, []⟩ v) =
        kept ⟨some (k + 1), false, []⟩ (Text.pieces (· == '.') v) := pieces_apply rfl (by simp) v
    calc apply ⟨some j, false, []⟩ (apply ⟨some (k + 1), false, []⟩ v)
        = Text.join ['.'] (kept ⟨some j, false, []⟩ (Text.pieces (· == '.') (apply ⟨some (k + 1), false, []⟩ v))) := rfl
      _ = Text.join ['.'] (kept ⟨some (min j (k + 1)), false, []⟩ (Text.pieces (· == '.') v)) := by
        rw [hpieces, kept_kept]
      _ = apply ⟨some (min j (k + 1)), false, []⟩ v := rfl

/-! ## Delimiters -/

/-- The value with dots in place of delimiters. -/
def dotted (delimiters : List Char) (v : Text) : Text :=
  v.map fun c => if c ∈ delimiters then '.' else c

/-- Dots in place of delimiters cut a value alike, if each dot in it is a delimiter. -/
lemma pieces_dotted (hdot : '.' ∉ v ∨ '.' ∈ delimiters) :
    Text.pieces (· == '.') (dotted delimiters v) = Text.pieces (delimiters.contains ·) v := by
  have hcut : ∀ c ∈ v, ((if c ∈ delimiters then '.' else c) == '.') = delimiters.contains c := by
    intro c hc
    by_cases hmem : c ∈ delimiters
    · simp [hmem]
    · have hne : c ≠ '.' := by
        rintro rfl
        exact hdot.elim (fun h => h hc) hmem
      simp [hmem, hne]
  have hpiece : ∀ piece ∈ Text.pieces (delimiters.contains ·) v, dotted delimiters piece = piece := by
    intro piece hpiece
    refine (List.map_congr_left fun c hc => if_neg fun hmem => ?_).trans (List.map_id' piece)
    have hcontains := Text.of_mem_pieces hpiece hc
    simp [hmem] at hcontains
  rw [dotted, Text.pieces_map hcut]
  exact (List.map_congr_left hpiece).trans (List.map_id' _)

/-- Delimiters are the same as dots in their place, in a value whose dots are delimiters. -/
lemma apply_dotted (hne : delimiters ≠ []) (hdot : '.' ∉ v ∨ '.' ∈ delimiters) :
    apply ⟨keep, reverse, delimiters⟩ v = apply ⟨keep, reverse, []⟩ (dotted delimiters v) := by
  have hdelimiter : isDelimiter ⟨keep, reverse, delimiters⟩ = (delimiters.contains ·) :=
    funext fun c => if_neg (by simpa using hne)
  have hlabels : labels ⟨keep, reverse, delimiters⟩ v = labels ⟨keep, reverse, []⟩ (dotted delimiters v) := by
    rw [labels, labels, hdelimiter, ← pieces_dotted hdot]
    rfl
  rw [apply_eq, apply_eq, hlabels]
  rfl

/-! ## The laws of labels -/

/-- Without anything written after the letter a value stays as it is. With dots as delimiters, turning the labels round
twice gives the value back, and keeping some labels and then some of them keeps as many as the smaller number says. A
number of labels keeps that many of the last ones, or all, after they were turned round if that is asked for. Other
delimiters stand for dots, in a value whose dots are delimiters. -/
theorem apply_labels (v : Text) :
    (Expression.transformer? []).map (·.apply v) = some v ∧
      apply ⟨none, true, []⟩ (apply ⟨none, true, []⟩ v) = v ∧
      (∀ j k, apply ⟨some j, false, []⟩ (apply ⟨some k, false, []⟩ v) = apply ⟨some (min j k), false, []⟩ v) ∧
      (∀ (f : Transformer) (k : Nat), f.keep = some k → 1 ≤ k →
        let pieces := Text.pieces f.isDelimiter v
        ∃ labels, labels <:+ (if f.reverse then pieces.reverse else pieces) ∧ labels.length = min k pieces.length ∧
          f.apply v = Text.join ['.'] labels ∧
          (f.isDelimiter '.' = true → Text.pieces (· == '.') (f.apply v) = labels)) ∧
      ∀ (keep : Option Nat) (reverse : Bool) (delimiters : List Char), delimiters ≠ [] →
        '.' ∉ v ∨ '.' ∈ delimiters →
        apply ⟨keep, reverse, delimiters⟩ v =
          apply ⟨keep, reverse, []⟩ (v.map fun c => if c ∈ delimiters then '.' else c) := by
  refine ⟨congrArg some (Template.apply_plain v), apply_reverse_reverse v, fun j k => apply_keep_keep j k v,
    fun f k hk hpos => ?_, fun keep reverse delimiters hne hdot => apply_dotted hne hdot⟩
  have hkeep : f.keep ≠ some 0 := by
    rw [hk]
    rintro ⟨⟩
    exact absurd hpos (by decide)
  refine ⟨f.kept (f.labels v), f.kept_suffix _, ?_, rfl, fun hdot => pieces_apply hdot hkeep v⟩
  rw [length_kept hk, length_labels]

/-- The labels of a domain, and those of a local part that is cut at other marks. -/
example :
    apply ⟨some 2, true, []⟩ "email.example.com".toList = "example.email".toList ∧
      apply ⟨none, true, ['-']⟩ "strong-bad".toList = "bad.strong".toList ∧
      apply ⟨some 3, false, ['-', '+']⟩ "-a.b+-".toList = "a.b..".toList := by
  decide

end Transformer

end SenderPolicy
