import Mathlib.Computability.Language
import Mathlib.Data.List.TakeWhile
import Mathlib.Tactic.Lemma
import SenderPolicy.Policy.Parser

/-!
# The grammar of targets

RFC 7208 writes the domain-spec of a term as a grammar: a macro-string, and after it a dot and a top label, or a
macro-expand. Here each of its rules is a language over characters. The languages are put together by union, product
and star, and know nothing of the reader.

The small parts of the reader accept the same texts as their rules: top labels (`isTopLabel_of_mem`,
`mem_of_isTopLabel`), and what stands between the braces of an expression (`mem_body_of_parse`,
`IsTransformer.exists_parse`), where the reader has the number of labels to keep fit a word.
-/

namespace SenderPolicy

open scoped Computability

/-- A character of ASCII that shows. -/
def Text.isVisible (c : Char) : Bool :=
  0x21 ≤ c.toNat && c.toNat ≤ 0x7E

/-! ## The rules -/

namespace Grammar

/-- The texts of one character of a class. -/
def one (p : Char → Bool) : Language Char :=
  {t | ∃ c, p c = true ∧ t = [c]}

/-- The eight letters that a target may use, in either case. -/
def isMacroLetter (c : Char) : Bool :=
  "slodipvh".toList.contains c.toLower

def isReversal (c : Char) : Bool :=
  c == 'r' || c == 'R'

def isDelimiter (c : Char) : Bool :=
  ".-+,/_=".toList.contains c

/-- What stands between the braces of an expression: a letter, digits, a sign for reversal, and delimiters. -/
def body : Language Char :=
  one isMacroLetter * (one Char.isDigit)∗ * (1 + one isReversal) * (one isDelimiter)∗

def expression : Language Char :=
  {['%', '{']} * body * {['}']}

def escape : Language Char :=
  {['%', '%']} + {['%', '_']} + {['%', '-']}

/-- The rule `macro-expand`. -/
def macroExpand : Language Char :=
  expression + escape

/-- The rule `macro-literal`: a visible character other than the percent sign. -/
def literal : Language Char :=
  one fun c => Text.isVisible c && c != '%'

/-- The rule `macro-string`. -/
def template : Language Char :=
  (macroExpand + literal)∗

/-- The rule `toplabel`: letters and digits with a letter among them, or letters, digits and hyphens with a hyphen
between two of the former. -/
def topLabel : Language Char :=
  (one Char.isAlphanum)∗ * one Char.isAlpha * (one Char.isAlphanum)∗ +
    one Char.isAlphanum * (one Char.isAlphanum)∗ * {['-']} * (one fun c => c.isAlphanum || c == '-')∗ *
      one Char.isAlphanum

/-- A dot, a top label and perhaps one more dot. -/
def dottedLabel : Language Char :=
  {['.']} * topLabel * (1 + {['.']})

/-- The rule `domain-spec`: a macro-string, and a dot and a top label, or a macro-expand, at its end. -/
def target : Language Char :=
  template * (dottedLabel + macroExpand)

/-- The digits are the whole run that follows the letter of an expression of the text. -/
def CountIn (digits t : Text) : Prop :=
  ∃ front ∈ template, ∃ c rest, isMacroLetter c = true ∧ t = front ++ '%' :: '{' :: c :: (digits ++ rest) ∧
    (∀ d ∈ digits, d.isDigit = true) ∧ ∀ d ∈ rest.head?, d.isDigit = false

/-- The digits are none, or a positive number that fits a word of 64 bits. -/
def IsCount (digits : Text) : Prop :=
  ∀ n, Text.numeral? digits = some n → 0 < n ∧ n < 2 ^ 64

/-- Every run of digits in an expression of the text is a count. -/
def CountsFit (t : Text) : Prop :=
  ∀ digits, CountIn digits t → IsCount digits

variable {p : Char → Bool} {l m : Language Char} {b digits s t u rest : Text}

/-! ### Texts of a class -/

/-- A text of a class is one character of it. -/
lemma mem_one : t ∈ one p ↔ ∃ c, p c = true ∧ t = [c] :=
  Iff.rfl

/-- A text of a class in front of others starts with a character of the class. -/
lemma mem_one_mul : t ∈ one p * l ↔ ∃ c s, p c = true ∧ s ∈ l ∧ t = c :: s := by
  rw [Language.mem_mul]
  constructor
  · rintro ⟨_, ⟨c, hc, rfl⟩, s, hs, rfl⟩
    exact ⟨c, s, hc, hs, rfl⟩
  · rintro ⟨c, s, hc, hs, rfl⟩
    exact ⟨[c], ⟨c, hc, rfl⟩, s, hs, rfl⟩

/-- A fixed text in front of others is what those start with. -/
lemma mem_singleton_mul : t ∈ ({s} : Language Char) * l ↔ ∃ u, u ∈ l ∧ t = s ++ u := by
  rw [Language.mem_mul]
  constructor
  · rintro ⟨_, rfl, u, hu, rfl⟩
    exact ⟨u, hu, rfl⟩
  · rintro ⟨u, hu, rfl⟩
    exact ⟨s, rfl, u, hu, rfl⟩

/-- Any number of characters of a class is a text of that class only. -/
lemma mem_star_one : t ∈ (one p)∗ ↔ ∀ c ∈ t, p c = true := by
  rw [Language.mem_kstar]
  constructor
  · rintro ⟨parts, rfl, hparts⟩ c hc
    obtain ⟨part, hpart, hc⟩ := List.mem_flatten.mp hc
    obtain ⟨d, hd, rfl⟩ := hparts part hpart
    rwa [List.mem_singleton.mp hc]
  · intro h
    refine ⟨t.map fun c => [c], ?_, fun part hpart => ?_⟩
    · rw [← List.flatMap_def, List.flatMap_singleton']
    · obtain ⟨c, hc, rfl⟩ := List.mem_map.mp hpart
      exact ⟨c, h c hc, rfl⟩

/-- A text of a class only, in front of others, is how those start. -/
lemma mem_star_one_mul : t ∈ (one p)∗ * l ↔ ∃ a s, (∀ c ∈ a, p c = true) ∧ s ∈ l ∧ t = a ++ s := by
  simp only [Language.mem_mul, mem_star_one]
  constructor
  · rintro ⟨a, ha, s, hs, rfl⟩
    exact ⟨a, s, ha, hs, rfl⟩
  · rintro ⟨a, s, ha, hs, rfl⟩
    exact ⟨a, ha, s, hs, rfl⟩

/-- One more text in front of any number of texts. -/
lemma append_mem_star (hs : s ∈ l) (ht : t ∈ l∗) : s ++ t ∈ l∗ := by
  obtain ⟨parts, rfl, hparts⟩ := Language.mem_kstar.mp ht
  exact Language.mem_kstar.mpr ⟨s :: parts, rfl, List.forall_mem_cons.mpr ⟨hs, hparts⟩⟩

/-! ### Top labels -/

/-- A text with a hyphen inside ends in its last character. -/
lemma getLast?_hyphenated (x : Char) (a m : Text) (y : Char) : (x :: (a ++ '-' :: (m ++ [y]))).getLast? = some y := by
  simp [List.getLast?_cons, List.getLast?_append]

/-- What the rule derives is admitted as a top label. -/
lemma isTopLabel_of_mem (h : t ∈ topLabel) : Policy.isTopLabel t = true := by
  simp only [topLabel, Language.mem_add, mul_assoc, mem_star_one_mul, mem_one_mul, mem_singleton_mul, mem_star_one,
    mem_one] at h
  simp only [Policy.isTopLabel, Bool.or_eq_true, Bool.and_eq_true, List.all_eq_true, List.any_eq_true,
    List.contains_iff_mem, bne_iff_ne, ne_eq]
  rcases h with ⟨a, _, ha, ⟨c, b, hc, hb, rfl⟩, rfl⟩ |
    ⟨x, _, hx, ⟨a, _, ha, ⟨_, ⟨m, _, hm, ⟨y, hy, rfl⟩, rfl⟩, rfl⟩, rfl⟩, rfl⟩
  · have halnum : c.isAlphanum = true := by rw [Char.isAlphanum, hc, Bool.true_or]
    refine .inl ⟨fun d hd => ?_, c, by simp, hc⟩
    rcases List.mem_append.mp hd with hd | hd
    · exact ha d hd
    · rcases List.mem_cons.mp hd with rfl | hd
      · exact halnum
      · exact hb d hd
  · -- perhaps without a letter, but with a hyphen that stands neither first nor last
    have hne : ∀ d : Char, d.isAlphanum = true → ¬ d = '-' := by
      rintro d hd rfl
      exact absurd hd (by decide)
    have hlast := getLast?_hyphenated x a m y
    refine .inr ⟨⟨⟨fun d hd => ?_, by simp⟩, by simpa using hne x hx⟩, hlast ▸ fun h => hne y hy (Option.some.inj h)⟩
    · simp only [List.mem_append, List.mem_cons, List.not_mem_nil, or_false] at hd
      rcases hd with rfl | hd | rfl | hd | rfl
      · exact .inl hx
      · exact .inl (ha d hd)
      · exact .inr rfl
      · exact Bool.or_eq_true_iff.mp (hm d hd)
      · exact .inl hy

/-- What is admitted as a top label is derived by the rule. -/
lemma mem_of_isTopLabel (h : Policy.isTopLabel t = true) : t ∈ topLabel := by
  simp only [topLabel, Language.mem_add, mul_assoc, mem_star_one_mul, mem_one_mul, mem_singleton_mul, mem_star_one,
    mem_one]
  simp only [Policy.isTopLabel, Bool.or_eq_true, Bool.and_eq_true, List.all_eq_true, List.any_eq_true,
    List.contains_iff_mem, bne_iff_ne, ne_eq] at h
  rcases h with ⟨hall, c, hc, halpha⟩ | ⟨⟨⟨hall, hhyphen⟩, hhead⟩, hlast⟩
  · obtain ⟨a, b, rfl⟩ := List.append_of_mem hc
    refine .inl ⟨a, c :: b, fun d hd => hall d (List.mem_append_left _ hd), ⟨c, b, halpha, fun d hd => ?_, rfl⟩, rfl⟩
    exact hall d (List.mem_append_right a (List.mem_cons_of_mem c hd))
  · -- the first hyphen: it does not start the label, and some character that is no hyphen ends it
    obtain ⟨a, b, rfl, ha⟩ := List.eq_append_cons_of_mem hhyphen
    have halnum : ∀ d ∈ a, d.isAlphanum = true := fun d hd =>
      (hall d (List.mem_append_left _ hd)).resolve_right fun h => ha (eq_of_beq h ▸ hd)
    cases a with
    | nil => exact absurd rfl hhead
    | cons x a =>
      rcases List.eq_nil_or_concat b with rfl | ⟨m, y, rfl⟩
      · exact absurd List.getLast?_concat hlast
      · rw [List.concat_eq_append] at hall hlast ⊢
        have hy : y.isAlphanum = true := by
          refine (hall y (by simp)).resolve_right fun h => hlast ?_
          rw [eq_of_beq h]
          exact getLast?_hyphenated x a m '-'
        refine .inr ⟨x, _, halnum x List.mem_cons_self, ⟨a, _, fun d hd => halnum d (List.mem_cons_of_mem x hd),
          ⟨m ++ [y], ⟨m, [y], fun d hd => ?_, ⟨y, hy, rfl⟩, rfl⟩, rfl⟩, rfl⟩, rfl⟩
        exact Bool.or_eq_true_iff.mpr (hall d (by simp [hd]))

/-- A top label ends in a letter or a digit. -/
lemma exists_getLast?_of_isTopLabel (h : Policy.isTopLabel t = true) : ∃ c ∈ t.getLast?, c.isAlphanum = true := by
  simp only [Policy.isTopLabel, Bool.or_eq_true, Bool.and_eq_true, List.all_eq_true, List.any_eq_true,
    List.contains_iff_mem, bne_iff_ne, ne_eq] at h
  rcases List.eq_nil_or_concat t with rfl | ⟨front, c, rfl⟩
  · rcases h with ⟨-, c, hc, -⟩ | ⟨⟨⟨-, hc⟩, -⟩, -⟩
    · cases hc
    · cases hc
  · rw [List.concat_eq_append] at h ⊢
    refine ⟨c, List.getLast?_concat, ?_⟩
    rcases h with ⟨hall, -⟩ | ⟨⟨⟨hall, -⟩, -⟩, hlast⟩
    · exact hall c (by simp)
    · refine (hall c (by simp)).resolve_right fun hc => hlast ?_
      rw [eq_of_beq hc, List.getLast?_concat]

/-! ### Expressions -/

/-- What may follow the letter of an expression, in its three parts. -/
structure IsTransformer (digits sign delimiters : Text) : Prop where
  isDigit : ∀ d ∈ digits, d.isDigit = true
  isReversal : sign = [] ∨ ∃ r, isReversal r = true ∧ sign = [r]
  isDelimiter : ∀ d ∈ delimiters, isDelimiter d = true

/-- The body of an expression is a letter and what may follow it. -/
lemma mem_body_iff :
    b ∈ body ↔ ∃ c digits sign delimiters, isMacroLetter c = true ∧ IsTransformer digits sign delimiters ∧
      b = c :: (digits ++ (sign ++ delimiters)) := by
  simp only [body, mul_assoc, mem_one_mul, mem_star_one_mul]
  simp only [Language.mem_mul, Language.mem_add, Language.mem_one, mem_star_one, mem_one]
  constructor
  · rintro ⟨c, _, hc, ⟨digits, _, hdigits, ⟨sign, hsign, delimiters, hdelimiters, rfl⟩, rfl⟩, rfl⟩
    exact ⟨c, digits, sign, delimiters, hc, ⟨hdigits, hsign, hdelimiters⟩, rfl⟩
  · rintro ⟨c, digits, sign, delimiters, hc, ⟨hdigits, hsign, hdelimiters⟩, rfl⟩
    exact ⟨c, _, hc, ⟨digits, _, hdigits, ⟨sign, hsign, delimiters, hdelimiters, rfl⟩, rfl⟩, rfl⟩

/-- The letters of the rule are those that a target may use. -/
lemma isMacroLetter_iff (c : Char) :
    isMacroLetter c = true ↔ ∃ letter, Letter.ofChar? c = some letter ∧ letter.isReserved = false := by
  rw [isMacroLetter, List.contains_iff_mem, Letter.ofChar?.eq_def]
  split <;> simp_all [Letter.isReserved]

/-- Behind the digits no digit follows. -/
lemma IsTransformer.isDigit_of_mem_head? {sign delimiters : Text} (h : IsTransformer digits sign delimiters) {c : Char}
    (hc : c ∈ (sign ++ delimiters).head?) : c.isDigit = false := by
  rcases h.isReversal with rfl | ⟨r, hr, rfl⟩
  · have hall : ".-+,/_=".toList.all (fun c => !c.isDigit) = true := by decide
    have hmem := h.isDelimiter c (List.mem_of_mem_head? hc)
    rw [Grammar.isDelimiter, List.contains_iff_mem] at hmem
    simpa using List.all_eq_true.mp hall c hmem
  · obtain rfl := Option.some.inj hc
    simp only [Grammar.isReversal, Bool.or_eq_true, beq_iff_eq] at hr
    rcases hr with rfl | rfl <;> rfl

/-- Digits are cut off where the first other character stands. -/
lemma takeWhile_isDigit {rest : Text} (hdigits : ∀ d ∈ digits, d.isDigit = true)
    (hrest : ∀ c ∈ rest.head?, c.isDigit = false) :
    (digits ++ rest).takeWhile Char.isDigit = digits ∧ (digits ++ rest).dropWhile Char.isDigit = rest := by
  have hstop : rest.takeWhile Char.isDigit = [] ∧ rest.dropWhile Char.isDigit = rest := by
    cases rest with
    | nil => exact ⟨rfl, rfl⟩
    | cons c rest =>
      have hc : ¬ c.isDigit = true := Bool.eq_false_iff.mp (hrest c rfl)
      exact ⟨List.takeWhile_cons_of_neg hc, List.dropWhile_cons_of_neg hc⟩
  rw [List.takeWhile_append_of_pos hdigits, List.dropWhile_append_of_pos hdigits, hstop.1, hstop.2, List.append_nil]
  exact ⟨rfl, rfl⟩

/-- The number of labels to keep is read exactly if the digits are a count. -/
lemma exists_keep?_iff (hdigits : ∀ d ∈ digits, d.isDigit = true) :
    (∃ keep, Expression.keep? digits = some keep) ↔ IsCount digits := by
  rw [IsCount, Expression.keep?]
  cases digits with
  | nil =>
    refine iff_of_true ⟨none, rfl⟩ ?_
    rintro n ⟨⟩
  | cons d digits =>
    have hnumeral : Text.numeral? (d :: digits) = some (Nat.ofDigitChars 10 (d :: digits) 0) := by
      rw [Text.numeral?, if_pos ⟨List.cons_ne_nil _ _, List.all_eq_true.mpr hdigits⟩]
    have hword : ∀ n, n < 2 ^ 64 ↔ n ≤ Text.maxWord := by
      intro n
      rw [Text.maxWord]
      omega
    simp only [List.isEmpty_cons, Bool.false_eq_true, if_false, hnumeral, Option.some_inj, forall_eq', hword]
    split
    · next hfit => exact iff_of_true ⟨_, rfl⟩ hfit
    · next hfit =>
      refine iff_of_false ?_ hfit
      rintro ⟨_, ⟨⟩⟩

/-- What is read behind a letter is made of digits, a sign and delimiters. -/
lemma exists_of_transformer? {x : Transformer} (h : Expression.transformer? rest = some x) :
    ∃ digits sign delimiters, IsTransformer digits sign delimiters ∧ rest = digits ++ (sign ++ delimiters) := by
  have hdigits : ∀ d ∈ rest.takeWhile Char.isDigit, d.isDigit = true := fun d hd => List.mem_takeWhile_imp hd
  rw [Expression.transformer?] at h
  obtain ⟨keep, -, hread⟩ := Option.bind_eq_some_iff.mp h
  split at hread
  next reverse delimiters hsign =>
  split at hread
  · next hdelimiters =>
    replace hdelimiters : ∀ d ∈ delimiters, isDelimiter d = true := List.all_eq_true.mp hdelimiters
    rw [← List.takeWhile_append_dropWhile (p := Char.isDigit) (l := rest)]
    split at hsign
    · next tail htail =>
      obtain ⟨-, rfl⟩ := Prod.mk.inj hsign
      exact ⟨_, ['r'], tail, ⟨hdigits, .inr ⟨'r', rfl, rfl⟩, hdelimiters⟩, by rw [htail]; rfl⟩
    · next tail htail =>
      obtain ⟨-, rfl⟩ := Prod.mk.inj hsign
      exact ⟨_, ['R'], tail, ⟨hdigits, .inr ⟨'R', rfl, rfl⟩, hdelimiters⟩, by rw [htail]; rfl⟩
    · obtain ⟨-, rfl⟩ := Prod.mk.inj hsign
      exact ⟨_, [], _, ⟨hdigits, .inl rfl, hdelimiters⟩, rfl⟩
  · cases hread

/-- Digits that are a count, a sign and delimiters are read behind a letter. -/
lemma IsTransformer.exists_transformer? {sign delimiters : Text} (h : IsTransformer digits sign delimiters)
    (hcount : IsCount digits) : ∃ x, Expression.transformer? (digits ++ (sign ++ delimiters)) = some x := by
  obtain ⟨htake, hdrop⟩ := takeWhile_isDigit h.isDigit fun c hc => h.isDigit_of_mem_head? hc
  obtain ⟨keep, hkeep⟩ := (exists_keep?_iff h.isDigit).mpr hcount
  have hdelimiters : delimiters.all (Expression.delimiters.contains ·) = true := List.all_eq_true.mpr h.isDelimiter
  rw [Expression.transformer?, htake, hdrop, hkeep]
  rcases h.isReversal with rfl | ⟨r, hr, rfl⟩
  · refine ⟨⟨keep, false, delimiters⟩, ?_⟩
    simp only [Option.bind_eq_bind, Option.bind_some, List.nil_append]
    split
    · exact absurd (h.isDelimiter 'r' List.mem_cons_self) (by decide)
    · exact absurd (h.isDelimiter 'R' List.mem_cons_self) (by decide)
    · exact if_pos hdelimiters
  · refine ⟨⟨keep, true, delimiters⟩, ?_⟩
    simp only [Grammar.isReversal, Bool.or_eq_true, beq_iff_eq] at hr
    rcases hr with rfl | rfl
    · exact if_pos hdelimiters
    · exact if_pos hdelimiters

/-- What is read between braces is derived as the body of an expression. -/
lemma mem_body_of_parse {e : Expression} (h : Expression.parse .domain b = .ok e) : b ∈ body := by
  rw [Expression.parse.eq_def] at h
  split at h
  · cases h
  split at h
  · cases h
  · next c rest _ letter hletter =>
    split at h
    · cases h
    · next hscope =>
      split at h
      · cases h
      · next x hx =>
        obtain ⟨digits, sign, delimiters, hparts, hrest⟩ := exists_of_transformer? hx
        have hreserved : letter.isReserved = false := by simpa using hscope
        have hc : isMacroLetter c = true := (isMacroLetter_iff c).mpr ⟨letter, hletter, hreserved⟩
        exact mem_body_iff.mpr ⟨c, digits, sign, delimiters, hc, hparts, by rw [hrest]⟩

/-- A letter with what may follow it is read between braces, if the digits are a count. -/
lemma IsTransformer.exists_parse {sign delimiters : Text} (h : IsTransformer digits sign delimiters)
    (hcount : IsCount digits) {c : Char} (hc : isMacroLetter c = true) :
    ∃ e, Expression.parse .domain (c :: (digits ++ (sign ++ delimiters))) = .ok e := by
  obtain ⟨letter, hletter, hreserved⟩ := (isMacroLetter_iff c).mp hc
  obtain ⟨x, hx⟩ := h.exists_transformer? hcount
  refine ⟨⟨letter, c.isUpper, x⟩, ?_⟩
  rw [Expression.parse, hletter]
  simp only [hreserved, Bool.false_and, Bool.false_eq_true, if_false, hx]

/-- No brace stands in what follows the letter of an expression. -/
lemma IsTransformer.brace_notMem {sign delimiters : Text} (h : IsTransformer digits sign delimiters) :
    '}' ∉ digits ++ (sign ++ delimiters) := by
  intro hbrace
  rw [List.mem_append, List.mem_append] at hbrace
  rcases hbrace with hbrace | hbrace | hbrace
  · exact absurd (h.isDigit _ hbrace) (by decide)
  · rcases h.isReversal with rfl | ⟨r, hr, rfl⟩
    · cases hbrace
    · rw [← List.mem_singleton.mp hbrace] at hr
      exact absurd hr (by decide)
  · exact absurd (h.isDelimiter _ hbrace) (by decide)

/-- No brace stands between the braces of an expression. -/
lemma brace_notMem_body (h : b ∈ body) : '}' ∉ b := by
  obtain ⟨c, digits, sign, delimiters, hc, hparts, rfl⟩ := mem_body_iff.mp h
  intro hbrace
  rcases List.mem_cons.mp hbrace with rfl | hbrace
  · exact absurd hc (by decide)
  · exact hparts.brace_notMem hbrace

/-! ### Counts -/

/-- One more piece in front of a macro-string makes a macro-string. -/
lemma append_mem_template (hu : u ∈ macroExpand + literal) (ht : t ∈ template) : u ++ t ∈ template :=
  append_mem_star hu ht

/-- The counts of what follows a piece are counts of the whole. -/
lemma CountsFit.drop (hu : u ∈ macroExpand + literal) (h : CountsFit (u ++ t)) : CountsFit t := by
  rintro digits ⟨front, hfront, c, rest, hc, rfl, hdigits, hrest⟩
  refine h digits ⟨u ++ front, append_mem_template hu hfront, c, rest, hc, ?_, hdigits, hrest⟩
  rw [List.append_assoc]

/-- The digits of an expression at the front are a count. -/
lemma CountsFit.isCount {sign delimiters : Text} {c : Char} (hc : isMacroLetter c = true)
    (hparts : IsTransformer digits sign delimiters)
    (h : CountsFit ('%' :: '{' :: (c :: (digits ++ (sign ++ delimiters)) ++ '}' :: t))) : IsCount digits := by
  refine h digits ⟨[], Language.nil_mem_kstar _, c, sign ++ delimiters ++ '}' :: t, hc, ?_, hparts.isDigit, ?_⟩
  · simp
  · intro d hd
    cases htail : sign ++ delimiters with
    | nil =>
      rw [htail] at hd
      obtain rfl := Option.some.inj hd
      decide
    | cons e tail =>
      refine hparts.isDigit_of_mem_head? ?_
      rw [htail] at hd ⊢
      exact hd

end Grammar

end SenderPolicy
