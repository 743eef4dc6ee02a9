import Mathlib.Data.List.TakeWhile
import SenderPolicy.Policy.Parser
import SenderPolicy.Proofs.Numerals
import SenderPolicy.Proofs.Words

/-!
# Where a target ends

The prefix lengths after a target are cut off from the end of a text, so the cut must not reach into the target. It
does not, because the end of a checked target holds a character that is no digit, and no slash: the brace of an
expression, a dot, or the last label (`exists_of_checkTarget`). Printed lengths are therefore found again where they
were printed (`readLengths_text`).
-/

namespace SenderPolicy

/-! ## Templates that end in an expression -/

namespace Template

variable {scope : Scope} {t rest : Text} {read : Except Error Template}

/-- What a reader makes of a text: no pieces of the empty text only, and an expression at the end only of a text with
a brace at its end. -/
def ReadsEnd (t : Text) (read : Except Error Template) : Prop :=
  ∀ pieces, read = .ok pieces → (pieces = [] → t = []) ∧ (endsInExpression pieces → t.getLast? = some '}')

/-- An error has no pieces. -/
lemma ReadsEnd.error {e : Error} : ReadsEnd t (.error e) :=
  nofun

/-- Characters to copy are no expression. -/
lemma ReadsEnd.copies (front : Text) (c : Char) (cs : List Char) (h : ReadsEnd rest read) :
    ReadsEnd (front ++ rest) (read >>= fun pieces => pure ((c :: cs).map .copy ++ pieces)) := by
  intro pieces hread
  cases read with
  | error e => cases hread
  | ok last =>
    obtain rfl := (Except.ok.inj hread).symm
    refine ⟨nofun, fun hends => ?_⟩
    rw [endsInExpression, List.getLast?_append] at hends
    cases hlast : last.getLast? with
    | none =>
      rw [hlast, Option.none_or, List.getLast?_map] at hends
      cases hc : (c :: cs).getLast? <;> simp [hc] at hends
    | some piece =>
      rw [hlast, Option.some_or] at hends
      have hrest := (h last rfl).2 (by rw [endsInExpression, hlast]; exact hends)
      rw [List.getLast?_append, hrest, Option.some_or]

/-- An expression ends in a brace. -/
lemma ReadsEnd.expand (front : Text) {e : Except Error Expression} (h : ReadsEnd rest read) :
    ReadsEnd (front ++ '}' :: rest) (do let e ← e; let pieces ← read; return .expand e :: pieces) := by
  intro pieces hread
  cases e with
  | error => cases hread
  | ok e =>
    cases read with
    | error => cases hread
    | ok last =>
      obtain rfl := (Except.ok.inj hread).symm
      refine ⟨nofun, fun hends => ?_⟩
      obtain ⟨hnil, hrest⟩ := h last rfl
      rw [List.getLast?_append, List.getLast?_cons]
      cases last with
      | nil =>
        rw [hnil rfl]
        rfl
      | cons piece last =>
        rw [endsInExpression, List.getLast?_cons_cons] at hends
        rw [hrest hends]
        rfl

/-- Whatever a template is read from, its pieces tell the end of the text. -/
theorem readsEnd_parse (t : Text) : ReadsEnd t (parse scope t) := by
  -- inside braces nothing is known of what was read before, so the statement is for every front
  refine parse.induct (fun t => ReadsEnd t (parse scope t))
    (fun body t => ∀ front, ReadsEnd (front ++ t) (parseBody scope body t))
    ?nil ?percent ?percents ?space ?encoded ?brace ?invalid ?copy ?unterminated ?close ?body t
  case nil =>
    intro pieces hread
    rw [parse] at hread
    obtain rfl := (Except.ok.inj hread).symm
    exact ⟨fun _ => rfl, nofun⟩
  case percent =>
    rw [parse]
    exact .error
  case percents =>
    intro rest ih
    rw [parse]
    exact .copies ['%', '%'] '%' [] ih
  case space =>
    intro rest ih
    rw [parse]
    exact .copies ['%', '_'] ' ' [] ih
  case encoded =>
    intro rest ih
    rw [parse]
    exact .copies ['%', '-'] '%' ['2', '0'] ih
  case brace =>
    intro rest ih
    rw [parse]
    exact ih ['%', '{']
  case invalid =>
    intro c rest hpercent hspace hencoded hbrace
    rw [parse]
    · exact .error
    all_goals assumption
  case copy =>
    intro c rest h₁ h₂ h₃ h₄ h₅ h₆ ih
    rw [parse]
    · exact .copies [c] c [] ih
    all_goals assumption
  case unterminated =>
    intro body front
    rw [parseBody]
    exact .error
  case close =>
    intro body rest ih front
    rw [parseBody]
    exact .expand front ih
  case body =>
    intro body c rest hc ih front
    rw [parseBody, List.append_cons]
    · exact ih (front ++ [c])
    · exact hc

/-- A text that ends in an expression ends in a brace. -/
lemma getLast?_of_holds_endsInExpression (h : holds endsInExpression t) : t.getLast? = some '}' := by
  rw [holds] at h
  split at h
  · next pieces hread => exact (readsEnd_parse t pieces hread).2 h
  · cases h

end Template

namespace Policy

variable {owner target head t : Text} {n most : Nat}

/-! ## The end of a checked target -/

/-- The text ends in a part that holds a character that is no digit, and no slash. -/
def HasEnd (t : Text) : Prop :=
  ∃ front back, t = front ++ back ∧ (∃ c ∈ back, c.isDigit = false) ∧ '/' ∉ back

/-- What stands before a text does not change how it ends. -/
lemma HasEnd.append (front : Text) (h : HasEnd t) : HasEnd (front ++ t) := by
  obtain ⟨front', back, rfl, hback⟩ := h
  exact ⟨front ++ front', back, (List.append_assoc _ _ _).symm, hback⟩

/-- A last character that is no digit and no slash is such a part. -/
lemma hasEnd_of_getLast? {c : Char} (h : t.getLast? = some c) (hdigit : c.isDigit = false) (hslash : c ≠ '/') :
    HasEnd t := by
  obtain ⟨front, rfl⟩ := List.getLast?_eq_some_iff.mp h
  refine ⟨front, [c], rfl, ⟨c, List.mem_singleton_self c, hdigit⟩, ?_⟩
  rw [List.mem_singleton]
  exact hslash.symm

/-- The code points of letters are those of the capital and the small ones. -/
lemma toNat_of_isAlpha {c : Char} (h : c.isAlpha) :
    ('A'.toNat ≤ c.toNat ∧ c.toNat ≤ 'Z'.toNat) ∨ ('a'.toNat ≤ c.toNat ∧ c.toNat ≤ 'z'.toNat) := by
  change (decide ('A'.val ≤ c.val ∧ c.val ≤ 'Z'.val) || decide ('a'.val ≤ c.val) && decide (c.val ≤ 'z'.val)) = true
    at h
  rwa [Bool.or_eq_true, Bool.and_eq_true, decide_eq_true_eq, decide_eq_true_eq, decide_eq_true_eq] at h

/-- No letter is a digit. -/
lemma isDigit_of_isAlpha {c : Char} (h : c.isAlpha) : c.isDigit = false := by
  have hletter := toNat_of_isAlpha h
  have hA : '9'.toNat < 'A'.toNat := by decide
  have ha : '9'.toNat < 'a'.toNat := by decide
  rw [Bool.eq_false_iff, ne_eq, Char.isDigit_iff_toNat]
  omega

/-- A top label has a letter or a hyphen, and no slash. -/
lemma hasEnd_of_isTopLabel (h : isTopLabel t) : HasEnd t := by
  simp only [isTopLabel, Bool.or_eq_true, Bool.and_eq_true, List.all_eq_true, List.any_eq_true,
    List.contains_iff_mem] at h
  refine ⟨[], t, rfl, ?_, fun hslash => ?_⟩
  · rcases h with ⟨-, c, hc, halpha⟩ | ⟨⟨⟨-, hhyphen⟩, -⟩, -⟩
    · exact ⟨c, hc, isDigit_of_isAlpha halpha⟩
    · exact ⟨'-', hhyphen, by decide⟩
  · rcases h with ⟨hall, -⟩ | ⟨⟨⟨hall, -⟩, -⟩, -⟩
    · exact absurd (hall '/' hslash) (by decide)
    · exact absurd (hall '/' hslash) (by decide)

/-- A checked target ends in a brace, a dot or a top label, so it has such an end. -/
theorem hasEnd_of_checkTarget (h : checkTarget owner target = .ok ()) : HasEnd target := by
  simp only [checkTarget] at h
  split at h
  · cases h
  split at h
  · cases h
  split at h
  · next hexpression =>
    exact hasEnd_of_getLast? (Template.getLast?_of_holds_endsInExpression hexpression) (by decide) (by decide)
  split at h
  · cases h
  · next before top hcut =>
    split at h
    · cases h
    · next htop =>
      rw [Bool.not_eq_true', Bool.not_eq_false] at htop
      by_cases hdot : target.getLast? = some '.'
      · -- the check drops a dot at the end, which is an end by itself
        exact hasEnd_of_getLast? hdot (by decide) (by decide)
      · rw [Text.dropDot, if_neg hdot] at hcut
        rw [Text.eq_of_cutLast hcut, List.append_cons]
        exact (hasEnd_of_isTopLabel htop).append _

/-! ## Printed lengths -/

/-- Digits are cut off up to a character that is none. -/
lemma cutDigits_append {c : Char} {digits : Text} (hdigits : ∀ d ∈ digits, d.isDigit) (hc : c.isDigit = false) :
    cutDigits (t ++ c :: digits) = (t ++ [c], digits) := by
  have hreverse : (t ++ c :: digits).reverse = digits.reverse ++ c :: t.reverse := by simp
  have hpos : ∀ d ∈ digits.reverse, d.isDigit := fun d hd => hdigits d (List.mem_reverse.mp hd)
  have hneg : ¬ c.isDigit := by simp [hc]
  rw [cutDigits, hreverse, List.dropWhile_append_of_pos hpos, List.takeWhile_append_of_pos hpos,
    List.dropWhile_cons_of_neg hneg, List.takeWhile_cons_of_neg hneg]
  simp

/-- A length is cut off behind its slash. -/
lemma cutLength_append {digits : Text} (hdigits : ∀ d ∈ digits, d.isDigit) (hne : digits ≠ []) :
    cutLength (t ++ '/' :: digits) = some (t, digits) := by
  obtain ⟨d, ds, rfl⟩ := List.exists_cons_of_ne_nil hne
  rw [cutLength, cutDigits_append hdigits (by decide)]
  simp

/-- Before the digits at the end of the text stands no slash, so that no length is cut off from it. -/
def Closed (t : Text) : Prop :=
  (cutDigits t).1.getLast? ≠ some '/'

/-- Such an end leaves no slash before the last digits. -/
lemma HasEnd.closed (h : HasEnd t) : Closed t := by
  obtain ⟨front, back, rfl, ⟨c, hc, hdigit⟩, hslash⟩ := h
  have hne : back.reverse.dropWhile Char.isDigit ≠ [] := by
    intro hnil
    have hall := List.dropWhile_eq_nil_iff.mp hnil c (List.mem_reverse.mpr hc)
    rw [hdigit] at hall
    cases hall
  obtain ⟨d, ds, hd⟩ := List.exists_cons_of_ne_nil hne
  rw [Closed, cutDigits, List.reverse_append, List.dropWhile_append, hd]
  simp only [List.isEmpty_cons, Bool.false_eq_true, if_false, List.cons_append, List.getLast?_reverse,
    List.head?_cons, ne_eq, Option.some.injEq]
  rintro rfl
  have hmem : '/' ∈ back.reverse.dropWhile Char.isDigit := hd ▸ List.mem_cons_self
  exact hslash (List.mem_reverse.mp ((List.dropWhile_suffix _).subset hmem))

/-- Where no slash stands before the last digits, no length is cut off. -/
lemma Closed.cutLength_eq_none (h : Closed t) : cutLength t = none := by
  rw [cutLength]
  split
  · rfl
  · next before digits _ hcut =>
    rw [Closed, hcut] at h
    exact if_neg h

/-- Such a text does not end in a slash. -/
lemma Closed.getLast?_ne (h : Closed t) : t.getLast? ≠ some '/' := by
  intro hlast
  obtain ⟨front, rfl⟩ := List.getLast?_eq_some_iff.mp hlast
  rw [Closed, cutDigits_append (by simp) (by decide)] at h
  exact h hlast

/-- Printed lengths are cut off where they were printed. -/
lemma cutLengths_text (h : Closed head) (l : Lengths) :
    cutLengths (head ++ l.text) = (head, l.v4.map Text.ofNat, l.v6.map Text.ofNat) := by
  have hcut : ∀ t n, cutLength (t ++ '/' :: Text.ofNat n) = some (t, Text.ofNat n) := fun t n =>
    cutLength_append (fun _ hd => Text.isDigit_of_mem_ofNat hd) (Text.ofNat_ne_nil n)
  obtain ⟨v4, v6⟩ := l
  cases v6 with
  | none =>
    cases v4 with
    | none => simp [cutLengths, Lengths.text, Lengths.part, h.cutLength_eq_none]
    | some n => simp [cutLengths, Lengths.text, Lengths.part, hcut, h.getLast?_ne]
  | some m =>
    have hsplit : ∀ t, cutLength (t ++ '/' :: '/' :: Text.ofNat m) = some (t ++ ['/'], Text.ofNat m) := by
      intro t
      rw [List.append_cons, hcut]
    cases v4 with
    | none => simp [cutLengths, Lengths.text, Lengths.part, hsplit, h.cutLength_eq_none]
    | some n =>
      have hboth : head ++ (Lengths.mk (some n) (some m)).text =
          (head ++ '/' :: Text.ofNat n) ++ '/' :: '/' :: Text.ofNat m := by
        simp [Lengths.text, Lengths.part]
      rw [hboth, cutLengths, hsplit]
      simp only [List.getLast?_concat, List.dropLast_concat, hcut, if_true]
      rfl

end Policy

end SenderPolicy
