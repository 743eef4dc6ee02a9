import Mathlib.Data.List.DropRight
import Mathlib.Data.List.TakeWhile
import Mathlib.Tactic.Lemma
import SenderPolicy.Text.Blank

/-!
# Texts put together and cut again

What the cuts of a text do where its parts are known: pieces that were joined are found again, a cut falls where
the first character of the class stands, and the words of a text hold none of the characters between them. Blanks and
dots are dropped only at the ends of a text, and only once.
-/

namespace SenderPolicy.Text

variable {p : Char → Bool} {c d : Char} {a b t w : Text} {ts : List Text}

/-! ## Pieces -/

/-- Pieces without the separator are found again after they were joined with it. -/
lemma pieces_join (h : ∀ t ∈ ts, c ∉ t) (hne : ts ≠ []) : pieces (· == c) (join [c] ts) = ts :=
  List.splitOn_intercalate c h hne

/-- A piece in front of others is joined with one separator behind it. -/
lemma join_cons_cons (s : Text) (t u : Text) (ts : List Text) :
    join s (t :: u :: ts) = t ++ s ++ join s (u :: ts) :=
  List.intercalate_cons_cons

/-- Pieces that are joined start as the first of them does. -/
lemma exists_join_eq_cons (s : Text) (c : Char) (t : Text) (ts : List Text) :
    ∃ u, join s ((c :: t) :: ts) = c :: u := by
  cases ts with
  | nil => exact ⟨t, List.intercalate_singleton⟩
  | cons u ts => exact ⟨_, join_cons_cons s (c :: t) u ts⟩

/-- A piece behind others is joined with one separator before it. -/
lemma join_concat (s : Text) (hne : ts ≠ []) (t : Text) : join s (ts ++ [t]) = join s ts ++ s ++ t := by
  induction ts with
  | nil => exact absurd rfl hne
  | cons u ts ih =>
    cases ts with
    | nil =>
      rw [List.singleton_append, join_cons_cons, join, join, List.intercalate_singleton, List.intercalate_singleton]
    | cons v ts =>
      rw [List.cons_append, List.cons_append, join_cons_cons, join_cons_cons, ← List.cons_append,
        ih (List.cons_ne_nil v ts)]
      simp only [List.append_assoc]

/-- Pieces that are joined end in a separator if the last of them is empty, and is not the only one. -/
lemma getLast?_join_iff (h : ∀ t ∈ ts, c ∉ t) :
    (join [c] ts).getLast? = some c ↔ 2 ≤ ts.length ∧ ts.getLast? = some [] := by
  rcases List.eq_nil_or_concat ts with rfl | ⟨front, t, rfl⟩
  · simp [join]
  · rw [List.concat_eq_append] at h ⊢
    have ht : t.getLast? ≠ some c := fun hlast =>
      h t (List.mem_append_right front (List.mem_singleton_self t)) (List.mem_of_getLast? hlast)
    rw [List.getLast?_concat, Option.some_inj]
    by_cases hfront : front = []
    · rw [hfront, List.nil_append, join, List.intercalate_singleton]
      exact iff_of_false ht fun hlength => by simp at hlength
    · have hlength : 0 < front.length := List.length_pos_iff.mpr hfront
      rw [join_concat _ hfront, List.length_append, List.length_singleton]
      by_cases hempty : t = []
      · rw [hempty, List.append_nil, List.getLast?_concat]
        exact iff_of_true rfl ⟨by omega, rfl⟩
      · rw [List.getLast?_append_of_ne_nil _ hempty]
        exact iff_of_false ht fun hlast => hempty hlast.2

/-- A character of joined pieces is the separator or is in one of the pieces. -/
lemma mem_join (hc : c ∈ join [d] ts) : c = d ∨ ∃ t ∈ ts, c ∈ t := by
  induction ts with
  | nil => cases hc
  | cons t ts ih =>
    rw [join] at hc ih
    by_cases hne : ts = []
    · rw [hne, List.intercalate_singleton] at hc
      exact .inr ⟨t, List.mem_cons_self, hc⟩
    · rw [List.intercalate_cons_of_ne_nil hne, List.mem_append, List.mem_append, List.mem_singleton] at hc
      rcases hc with (hc | hc) | hc
      · exact .inr ⟨t, List.mem_cons_self, hc⟩
      · exact .inl hc
      · rcases ih hc with hc | ⟨u, hu, hc⟩
        · exact .inl hc
        · exact .inr ⟨u, List.mem_cons_of_mem t hu, hc⟩

/-- What is in a piece is in the joined pieces. -/
lemma mem_join_of_mem {s : Text} (ht : t ∈ ts) (hc : c ∈ t) : c ∈ join s ts := by
  induction ts with
  | nil => cases ht
  | cons u ts ih =>
    rw [join] at ih ⊢
    by_cases hne : ts = []
    · rw [hne] at ht ⊢
      rwa [List.intercalate_singleton, ← List.mem_singleton.mp ht]
    · rw [List.intercalate_cons_of_ne_nil hne, List.mem_append]
      rcases List.mem_cons.mp ht with rfl | ht
      · exact .inl (List.mem_append_left _ hc)
      · exact .inr (ih ht)

/-- A piece holds no separator. -/
lemma of_mem_pieces (hw : w ∈ pieces p t) (hc : c ∈ w) : p c = false := by
  induction t generalizing w with
  | nil =>
    obtain rfl : w = [] := by simpa [pieces] using hw
    cases hc
  | cons d t ih =>
    obtain ⟨u, us, hu⟩ := List.exists_cons_of_ne_nil (List.splitOnP_ne_nil p t)
    rw [pieces, List.splitOnP_cons_eq_if_modifyHead] at hw
    by_cases hd : p d = true
    · rw [if_pos hd, List.mem_cons] at hw
      rcases hw with rfl | hw
      · cases hc
      · exact ih hw hc
    · rw [if_neg hd, hu, List.modifyHead_cons, List.mem_cons] at hw
      rcases hw with rfl | hw
      · rcases List.mem_cons.mp hc with rfl | hc
        · simpa using hd
        · exact ih (w := u) (by simp [pieces, hu]) hc
      · exact ih (by simp [pieces, hu, hw]) hc

/-- Characters may be replaced by others if the same of them are separators. -/
lemma pieces_map {q : Char → Bool} {f : Char → Char} (h : ∀ c ∈ t, q (f c) = p c) :
    pieces q (t.map f) = (pieces p t).map (List.map f) := by
  induction t with
  | nil => rfl
  | cons c t ih =>
    obtain ⟨hc, ht⟩ := List.forall_mem_cons.mp h
    replace ih := ih ht
    rw [pieces, pieces] at ih ⊢
    rw [List.map_cons, List.splitOnP_cons_eq_if_modifyHead, List.splitOnP_cons_eq_if_modifyHead, hc, ih]
    split
    · rfl
    · cases t.splitOnP p <;> rfl

/-! ## Words -/

/-- A word holds no separator. -/
lemma of_mem_words (hw : w ∈ words p t) (hc : c ∈ w) : p c = false :=
  of_mem_pieces (List.mem_filter.mp hw).1 hc

/-- A separator ends the words before it and starts those behind it. -/
lemma words_append (hd : p d = true) : words p (a ++ d :: b) = words p a ++ words p b := by
  rw [words, pieces, List.splitOnP_append_cons a b hd, List.filter_append]
  rfl

/-- A text without separators that is not empty is its only word. -/
lemma words_singleton (ht : ∀ c ∈ t, p c = false) (hne : t ≠ []) : words p t = [t] := by
  rw [words, pieces, List.splitOnP_eq_singleton ht]
  simp [hne]

/-- Words with one separator before each are found again. -/
lemma words_flatMap (hd : p d = true) (ha : ∀ c ∈ a, p c = false) (hne : a ≠ [])
    (hts : ∀ t ∈ ts, t ≠ [] ∧ ∀ c ∈ t, p c = false) : words p (a ++ ts.flatMap (d :: ·)) = a :: ts := by
  induction ts generalizing a with
  | nil => rw [List.flatMap_nil, List.append_nil, words_singleton ha hne]
  | cons t ts ih =>
    obtain ⟨htne, ht⟩ := hts t List.mem_cons_self
    have htail := ih ht htne fun u hu => hts u (List.mem_cons_of_mem t hu)
    rw [List.flatMap_cons, List.cons_append, words_append hd, words_singleton ha hne, htail]
    rfl

/-- The first word of a text that starts with no separator starts as the text does. -/
lemma exists_words_eq_cons (hc : p c = false) (t : Text) : ∃ w ws, words p (c :: t) = (c :: w) :: ws := by
  obtain ⟨u, us, hu⟩ := List.exists_cons_of_ne_nil (List.splitOnP_ne_nil p t)
  refine ⟨u, us.filter fun w => !w.isEmpty, ?_⟩
  rw [words, pieces, List.splitOnP_cons_eq_if_modifyHead, if_neg (Bool.eq_false_iff.mp hc), hu, List.modifyHead_cons]
  rfl

/-- The empty text has no words. -/
lemma words_nil (p : Char → Bool) : words p [] = [] := by
  simp [words, pieces]

/-- A separator at the start of a text stands before no word. -/
lemma words_cons (hd : p d = true) : words p (d :: b) = words p b := by
  have happend := words_append (a := []) (b := b) hd
  rwa [List.nil_append, words_nil, List.nil_append] at happend

/-- Separators at the ends of a text stand before no word and after none. -/
lemma words_dropWhile (t : Text) : words p (t.dropWhile p) = words p t := by
  induction t with
  | nil => rfl
  | cons c t ih =>
    by_cases hc : p c = true
    · rw [List.dropWhile_cons_of_pos hc, ih, words_cons hc]
    · rw [List.dropWhile_cons_of_neg hc]

/-- Separators at the end of a text stand after all of its words. -/
lemma words_dropEnd (t : Text) : words p (dropEnd p t) = words p t := by
  induction t using List.reverseRecOn with
  | nil => rfl
  | append_singleton t c ih =>
    by_cases hc : p c = true
    · have happend := words_append (a := t) (b := []) hc
      rw [words_nil, List.append_nil] at happend
      rw [happend, ← ih, dropEnd, List.reverse_append, List.reverse_singleton, List.singleton_append,
        List.dropWhile_cons_of_pos hc]
      rfl
    · rw [dropEnd, List.reverse_append, List.reverse_singleton, List.singleton_append,
        List.dropWhile_cons_of_neg hc, List.reverse_cons, List.reverse_reverse]

/-- A text has the words it has when it is trimmed. -/
lemma words_trim (t : Text) : words isBlank (trim t) = words isBlank t := by
  rw [trim, words_dropEnd, words_dropWhile]

/-! ## Cuts -/

/-- A cut falls where a separator, or the end, follows characters that are none. -/
lemma cut_append (ha : ∀ c ∈ a, p c = false) (hb : ∀ c ∈ b.head?, p c = true) : cut p (a ++ b) = (a, b) := by
  induction a with
  | nil =>
    cases b with
    | nil => rfl
    | cons c b =>
      have hc : p c = true := hb c rfl
      simp [cut, hc]
  | cons c a ih =>
    have hc : p c = false := ha c List.mem_cons_self
    have htail := ih fun d hd => ha d (List.mem_cons_of_mem c hd)
    rw [cut, Prod.mk.injEq] at htail ⊢
    simp [hc, htail]

/-- The two parts of a cut make up the text. -/
lemma cut_eq_append (t : Text) : (cut p t).1 ++ (cut p t).2 = t :=
  List.takeWhile_append_dropWhile

/-- A cut is told by its parts: the first is the longest start without a separator. -/
lemma cut_eq_iff : cut p t = (a, b) ↔ t = a ++ b ∧ (∀ c ∈ a, p c = false) ∧ ∀ c ∈ b.head?, p c = true := by
  constructor
  · intro h
    obtain ⟨rfl, rfl⟩ := Prod.mk.inj h
    refine ⟨(cut_eq_append t).symm, fun c hc => ?_, fun c hc => ?_⟩
    · simpa using List.mem_takeWhile_imp hc
    · have hhead := List.head?_dropWhile_not (fun c => !p c) t
      rw [Option.mem_def.mp hc] at hhead
      simpa using hhead
  · rintro ⟨rfl, ha, hb⟩
    exact cut_append ha hb

/-- A text is cut at a character that none of its kind stands before. -/
lemma cutFirst_append (ha : c ∉ a) : cutFirst c (a ++ c :: b) = some (a, b) := by
  have hcut : cut (· == c) (a ++ c :: b) = (a, c :: b) := by
    refine cut_append (fun d hd => ?_) (by simp)
    rw [beq_eq_false_iff_ne]
    rintro rfl
    exact ha hd
  rw [cutFirst, hcut]

/-- A text is not cut at a character that it does not hold. -/
lemma cutFirst_eq_none (ha : c ∉ a) : cutFirst c a = none := by
  have hcut : cut (· == c) (a ++ []) = (a, []) := by
    refine cut_append (fun d hd => ?_) (by simp)
    rw [beq_eq_false_iff_ne]
    rintro rfl
    exact ha hd
  rw [List.append_nil] at hcut
  rw [cutFirst, hcut]

/-- The first cut is at the character that has none of its kind before it. -/
lemma cutFirst_eq_some_iff : cutFirst c t = some (a, b) ↔ t = a ++ c :: b ∧ c ∉ a := by
  constructor
  · intro h
    rw [cutFirst] at h
    split at h
    · cases h
    · next before d rest hcut =>
      obtain ⟨rfl, rfl⟩ := Prod.mk.inj (Option.some.inj h)
      obtain ⟨rfl, hbefore, hrest⟩ := cut_eq_iff.mp hcut
      obtain rfl := eq_of_beq (hrest d rfl)
      exact ⟨rfl, fun hd => absurd (hbefore d hd) (by simp)⟩
  · rintro ⟨rfl, ha⟩
    exact cutFirst_append ha

/-- The parts of a first cut, with the character between them, make up the text. -/
lemma eq_of_cutFirst (h : cutFirst c t = some (a, b)) : t = a ++ c :: b :=
  (cutFirst_eq_some_iff.mp h).1

/-- A text that has no first cut does not hold the character. -/
lemma notMem_of_cutFirst (h : cutFirst c t = none) : c ∉ t := by
  intro hc
  obtain ⟨a, b, rfl, ha⟩ := List.eq_append_cons_of_mem hc
  rw [cutFirst_append ha] at h
  cases h

/-- The parts of a last cut, with the character between them, make up the text. -/
lemma eq_of_cutLast (h : cutLast c t = some (a, b)) : t = a ++ c :: b := by
  rw [cutLast, Option.map_eq_some_iff] at h
  obtain ⟨⟨rest, before⟩, hcut, hparts⟩ := h
  obtain ⟨rfl, rfl⟩ := Prod.mk.inj hparts
  rw [← List.reverse_reverse t, eq_of_cutFirst hcut]
  simp

/-! ## Cuts at the last -/

/-- A text is cut at a character that does not come again. -/
lemma cutLast_append (hb : c ∉ b) : cutLast c (a ++ c :: b) = some (a, b) := by
  have hreverse : (a ++ c :: b).reverse = b.reverse ++ c :: a.reverse := by simp
  rw [cutLast, hreverse, cutFirst_append (by simpa using hb)]
  simp

/-- A text without the character has no last cut. -/
lemma cutLast_eq_none (ht : c ∉ t) : cutLast c t = none := by
  rw [cutLast, cutFirst_eq_none (by simpa using ht), Option.map_none]

/-- A text with a character is cut at the last of them. -/
lemma exists_of_mem (ht : c ∈ t) : ∃ a b, t = a ++ c :: b ∧ c ∉ b := by
  induction t with
  | nil => cases ht
  | cons d t ih =>
    by_cases hrest : c ∈ t
    · obtain ⟨a, b, rfl, hb⟩ := ih hrest
      exact ⟨d :: a, b, rfl, hb⟩
    · obtain rfl := (List.mem_cons.mp ht).resolve_right hrest
      exact ⟨[], t, rfl, hrest⟩

/-! ## First and last words -/

/-- A text that starts with no separator starts with its first word. -/
lemma words_eq_cons_of_head? (hne : t ≠ []) (hhead : ∀ c ∈ t.head?, p c = false) :
    words p t = (cut p t).1 :: words p (cut p t).2 := by
  cases hcut : cut p t with
  | mk first rest =>
    obtain ⟨rfl, hfirst, hrest⟩ := cut_eq_iff.mp hcut
    have hfirst_ne : first ≠ [] := by
      rintro rfl
      obtain ⟨d, rest, rfl⟩ := List.exists_cons_of_ne_nil hne
      exact absurd (hhead d rfl) (by simp [hrest d rfl])
    cases rest with
    | nil => rw [List.append_nil, words_singleton hfirst hfirst_ne, words_nil]
    | cons d rest =>
      have hd : p d = true := hrest d rfl
      rw [words_append hd, words_singleton hfirst hfirst_ne, words_cons hd]
      rfl

/-- A text holds no separator, or is cut at the last of them. -/
lemma exists_last_separator (p : Char → Bool) (t : Text) :
    (∀ c ∈ t, p c = false) ∨ ∃ a d b, t = a ++ d :: b ∧ p d = true ∧ ∀ c ∈ b, p c = false := by
  induction t with
  | nil => exact .inl fun _ hc => absurd hc List.not_mem_nil
  | cons c t ih =>
    rcases ih with ht | ⟨a, d, b, rfl, hd, hb⟩
    · cases hc : p c with
      | true => exact .inr ⟨[], c, t, rfl, hc, ht⟩
      | false => exact .inl (List.forall_mem_cons.mpr ⟨hc, ht⟩)
    · exact .inr ⟨c :: a, d, b, rfl, hd, hb⟩

/-- The last word of a text that ends in no separator is its end. -/
lemma suffix_of_getLast?_words (hlast : ∀ c ∈ t.getLast?, p c = false) (hw : w ∈ (words p t).getLast?) : w <:+ t := by
  rcases exists_last_separator p t with ht | ⟨a, d, b, rfl, hd, hb⟩
  · by_cases hne : t = []
    · rw [hne, words_nil] at hw
      cases hw
    · rw [words_singleton ht hne] at hw
      obtain rfl := Option.some.inj hw
      exact List.suffix_refl _
  · have hne : b ≠ [] := by
      rintro rfl
      have hd' := hlast d List.getLast?_concat
      rw [hd] at hd'
      cases hd'
    rw [words_append hd, words_singleton hb hne, List.getLast?_concat] at hw
    obtain rfl := Option.some.inj hw
    exact ⟨a ++ [d], by simp⟩

/-! ## Blanks and dots at the ends -/

/-- Separators are dropped at the end as the library drops them. -/
lemma dropEnd_eq_rdropWhile (p : Char → Bool) (t : Text) : dropEnd p t = t.rdropWhile p := rfl

/-- A text that was trimmed has no blanks left at its ends. -/
lemma trim_trim (t : Text) : trim (trim t) = trim t := by
  have hfront : (trim t).dropWhile isBlank = trim t := by
    have hbegins : trim t <+: t.dropWhile isBlank := List.rdropWhile_prefix isBlank _
    rw [List.dropWhile_eq_self_iff]
    intro hne
    have hne' : 0 < (t.dropWhile isBlank).length := hne.trans_le hbegins.length_le
    have hhead : (t.dropWhile isBlank)[0] = (trim t)[0] := (hbegins.getElem hne).symm
    rw [← hhead]
    exact List.dropWhile_get_zero_not isBlank t hne'
  rw [trim, hfront, trim, dropEnd_eq_rdropWhile, dropEnd_eq_rdropWhile, List.rdropWhile_idempotent]

/-- A text that neither starts nor ends with a blank is not trimmed. -/
lemma trim_eq_self (hfirst : ∀ c ∈ t.head?, isBlank c = false) (hlast : ∀ c ∈ t.getLast?, isBlank c = false) :
    trim t = t := by
  have hfront : t.dropWhile isBlank = t := by
    cases t with
    | nil => rfl
    | cons c t => exact List.dropWhile_cons_of_neg (by simp [hfirst c rfl])
  rw [trim, hfront, dropEnd_eq_rdropWhile, List.rdropWhile_eq_self_iff]
  intro hne hblank
  rw [hlast _ (List.getLast?_eq_getLast_of_ne_nil hne)] at hblank
  cases hblank

/-- A text without blanks is not trimmed. -/
lemma trim_eq_of_unblank (h : ∀ c ∈ t, isBlank c = false) : trim t = t :=
  trim_eq_self (fun c hc => h c (List.mem_of_mem_head? hc)) fun c hc => h c (List.mem_of_getLast? hc)

/-- A trimmed text does not start with a blank. -/
lemma isBlank_of_trim_eq_cons (h : trim t = c :: a) : isBlank c = false := by
  obtain ⟨rest, hrest⟩ : trim t <+: t.dropWhile isBlank := List.rdropWhile_prefix isBlank _
  have hhead := List.head?_dropWhile_not isBlank t
  rw [← hrest, h] at hhead
  exact hhead

/-- No dot is left at the end once the dots there are dropped. -/
lemma getLast?_dropDots_ne (t : Text) : (dropDots t).getLast? ≠ some '.' := by
  rw [dropDots, dropEnd_eq_rdropWhile]
  intro hlast
  by_cases hne : t.rdropWhile (· == '.') = []
  · rw [hne] at hlast
    cases hlast
  · have hnot := List.rdropWhile_last_not (· == '.') t hne
    rw [List.getLast?_eq_getLast_of_ne_nil hne, Option.some_inj] at hlast
    rw [hlast] at hnot
    exact hnot rfl

/-- One more dot at the end is dropped with the others. -/
lemma dropDots_append_dot (t : Text) : dropDots (t ++ ['.']) = dropDots t := by
  simp [dropDots, dropEnd]

/-- A text that does not end in a dot keeps all it has. -/
lemma dropDots_of_getLast?_ne (h : t.getLast? ≠ some '.') : dropDots t = t := by
  rw [dropDots, dropEnd]
  cases hlast : t.reverse with
  | nil => rw [← List.reverse_reverse t, hlast]; rfl
  | cons c front =>
    have hc : c ≠ '.' := by
      rintro rfl
      rw [← List.head?_reverse, hlast] at h
      exact h rfl
    rw [List.dropWhile_cons_of_neg (by simpa using hc), ← hlast, List.reverse_reverse]

end SenderPolicy.Text
