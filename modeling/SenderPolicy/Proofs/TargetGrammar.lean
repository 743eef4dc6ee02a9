import SenderPolicy.Proofs.DerivedTemplates

/-!
# Checked targets

The check of a target reads it as a template, and searches it for its last dot unless it ends in an expression. The dot
may stand inside an expression or after an escape; but then the label after it holds a brace or is no label, so what is
accepted there is derived by the grammar all the same. Main statement: the check accepts what the grammar derives, but
for the texts that end in an escape (`checkTarget_eq_ok_iff`).
-/

namespace SenderPolicy

open scoped Computability

namespace Policy

open Grammar (CountsFit expression escape dottedLabel template target)

variable {owner t : Text}

/-- A target is accepted if it is a template that ends in an expression, or in a top label after its last dot. -/
lemma checkTarget_eq_ok :
    checkTarget owner t = .ok () ↔ t ≠ [] ∧ ∃ p, Template.parse .domain t = .ok p ∧
      (Template.endsInExpression p = true ∨
        ∃ before top, Text.cutLast '.' (Text.dropDot t) = some (before, top) ∧ isTopLabel top = true) := by
  cases t with
  | nil =>
    refine iff_of_false ?_ fun h => h.1 rfl
    rintro ⟨⟩
  | cons c t =>
    simp only [checkTarget, Template.check, List.isEmpty_cons, ne_eq, reduceCtorEq, not_false_eq_true, true_and]
    cases hp : Template.parse .domain (c :: t) with
    | error e =>
      refine iff_of_false ?_ ?_
      · rintro ⟨⟩
      · rintro ⟨_, ⟨⟩, _⟩
    | ok p =>
      simp only [Except.map, Template.holds_of_parse hp, Except.ok.injEq, exists_eq_left']
      cases Template.endsInExpression p with
      | true => exact iff_of_true rfl (.inl rfl)
      | false =>
        simp only [Bool.false_eq_true, false_or, if_false]
        cases Text.cutLast '.' (Text.dropDot (c :: t)) with
        | none =>
          refine iff_of_false ?_ ?_
          · rintro ⟨⟩
          · rintro ⟨_, _, ⟨⟩, _⟩
        | some cut =>
          obtain ⟨before, top⟩ := cut
          dsimp only
          cases htop : isTopLabel top with
          | true => exact iff_of_true rfl ⟨before, top, rfl, htop⟩
          | false =>
            refine iff_of_false ?_ ?_
            · rintro ⟨⟩
            · rintro ⟨_, _, hcut, h⟩
              obtain ⟨rfl, rfl⟩ := Prod.mk.inj (Option.some.inj hcut)
              rw [htop] at h
              cases h

/-- What the grammar lets a target end in is a dot and a top label, perhaps with a dot after it. -/
lemma mem_dottedLabel_iff {u : Text} :
    u ∈ dottedLabel ↔ ∃ top dot, isTopLabel top = true ∧ (dot = [] ∨ dot = ['.']) ∧ u = '.' :: (top ++ dot) := by
  simp only [dottedLabel, mul_assoc, Grammar.mem_singleton_mul]
  constructor
  · rintro ⟨_, ⟨top, htop, dot, hdot, rfl⟩, rfl⟩
    exact ⟨top, dot, Grammar.isTopLabel_of_mem htop, hdot, rfl⟩
  · rintro ⟨top, dot, htop, hdot, rfl⟩
    exact ⟨_, Language.append_mem_mul (Grammar.mem_of_isTopLabel htop) hdot, rfl⟩

/-- The characters of a top label are letters, digits and hyphens. -/
lemma of_mem_topLabel {top : Text} (h : isTopLabel top = true) {c : Char} (hc : c ∈ top) :
    c.isAlphanum = true ∨ c = '-' := by
  simp only [isTopLabel, Bool.or_eq_true, Bool.and_eq_true, List.all_eq_true, beq_iff_eq] at h
  rcases h with ⟨hall, -⟩ | ⟨⟨⟨hall, -⟩, -⟩, -⟩
  · exact .inl (hall c hc)
  · exact hall c hc

/-- Other characters than letters, digits and hyphens stand in no top label. -/
lemma notMem_topLabel {top : Text} (h : isTopLabel top = true) {c : Char} (hc : c.isAlphanum = false) (hne : c ≠ '-') :
    c ∉ top := by
  intro hmem
  rcases of_mem_topLabel h hmem with halnum | rfl
  · rw [hc] at halnum
    cases halnum
  · exact hne rfl

/-- The last character of an escape ends no expression and no top label, and is no dot. -/
lemma getLast?_of_mem_escape (h : t ∈ template * escape) :
    ∃ c ∈ t.getLast?, c.isAlphanum = false ∧ c ≠ '}' ∧ c ≠ '.' := by
  obtain ⟨s, -, e, (rfl | rfl) | rfl, rfl⟩ := Language.mem_mul.mp h
  · exact ⟨'%', by simp, by decide⟩
  · exact ⟨'_', by simp, by decide⟩
  · exact ⟨'-', by simp, by decide⟩

/-- A text that ends in a top label ends in a letter, a digit or the dot after it. -/
lemma getLast?_dotted (s : Text) {top dot : Text} (htop : isTopLabel top = true) (hdot : dot = [] ∨ dot = ['.']) :
    ∃ c ∈ (s ++ '.' :: (top ++ dot)).getLast?, (dot = [] → c.isAlphanum = true) ∧ (dot = ['.'] → c = '.') := by
  rcases hdot with rfl | rfl
  · obtain ⟨c, hc, halnum⟩ := Grammar.exists_getLast?_of_isTopLabel htop
    refine ⟨c, ?_, fun _ => halnum, nofun⟩
    rw [List.append_nil, List.getLast?_append, List.getLast?_cons, hc]
    rfl
  · refine ⟨'.', ?_, nofun, fun _ => rfl⟩
    rw [← List.cons_append, ← List.append_assoc, List.getLast?_concat]
    rfl

/-- The dot at the end of a target, if there is one, is dropped before its last label is cut off. -/
lemma dropDot_dotted {s top dot : Text} (htop : isTopLabel top = true) (hdot : dot = [] ∨ dot = ['.']) :
    Text.dropDot (s ++ '.' :: (top ++ dot)) = s ++ '.' :: top := by
  obtain ⟨c, hc, halnum, -⟩ := getLast?_dotted s htop hdot
  rcases hdot with rfl | rfl
  · rw [Text.dropDot, hc, if_neg, List.append_nil]
    rintro ⟨⟩
    exact absurd (halnum rfl) (by decide)
  · rw [← List.cons_append, ← List.append_assoc, Text.dropDot, List.getLast?_concat, if_pos rfl, List.dropLast_concat]

/-- A text is what is left of it without its last dot, and that dot if there is one. -/
lemma exists_eq_append_of_dropDot (t : Text) : ∃ dot, (dot = [] ∨ dot = ['.']) ∧ t = Text.dropDot t ++ dot := by
  rw [Text.dropDot]
  split
  · next hlast => exact ⟨['.'], .inr rfl, (List.dropLast_append_getLast? '.' hlast).symm⟩
  · exact ⟨[], .inl rfl, (List.append_nil t).symm⟩

/-- The check of a target accepts the texts that the grammar derives, but for those that end in an escape: what an
escape stands for is no expression for the check, and no part of a top label. -/
theorem checkTarget_eq_ok_iff (hvisible : ∀ c ∈ t, Text.isVisible c = true) (hfit : CountsFit t) :
    checkTarget owner t = .ok () ↔ t ∈ target ∧ t ∉ template * escape := by
  rw [checkTarget_eq_ok]
  constructor
  · rintro ⟨-, p, hp, hend | ⟨before, top, hcut, htop⟩⟩
    · -- with an expression at its end the text ends in a brace, and no escape does
      obtain ⟨-, -, hderived⟩ := Template.derived_parse t hvisible p hp
      refine ⟨?_, fun hescape => ?_⟩
      · obtain ⟨s, hs, e, he, rfl⟩ := Language.mem_mul.mp (hderived hend)
        exact Language.append_mem_mul hs (.inr (.inl he))
      · obtain ⟨c, hc, -, hbrace, -⟩ := getLast?_of_mem_escape hescape
        rw [(Template.readsEnd_parse t p hp).2 hend] at hc
        exact hbrace (Option.some.inj hc).symm
    · -- the last dot may stand in an expression, but no brace follows it, so a template is cut off before it
      obtain ⟨dot, hdot, ht⟩ := exists_eq_append_of_dropDot t
      rw [Text.eq_of_cutLast hcut, List.append_assoc, List.cons_append] at ht
      subst ht
      have hbrace : '}' ∉ top ++ dot := by
        have htop := notMem_topLabel htop (c := '}') (by decide) (by decide)
        rcases hdot with rfl | rfl <;> simpa using htop
      obtain ⟨q, hq⟩ := Template.exists_parse_of_append hbrace hp
      obtain ⟨hs, -⟩ := Template.derived_parse before (fun c hc => hvisible c (List.mem_append_left _ hc)) q hq
      have hdotted := mem_dottedLabel_iff.mpr ⟨top, dot, htop, hdot, rfl⟩
      refine ⟨Language.append_mem_mul hs (.inl hdotted), fun hescape => ?_⟩
      obtain ⟨c, hc, hnot, -, hne⟩ := getLast?_of_mem_escape hescape
      obtain ⟨d, hd, halnum, hperiod⟩ := getLast?_dotted before htop hdot
      obtain rfl := Option.some.inj (hc.symm.trans hd)
      rcases hdot with rfl | rfl
      · rw [halnum rfl] at hnot
        cases hnot
      · exact hne (hperiod rfl)
  · rintro ⟨htarget, hnot⟩
    obtain ⟨s, hs, u, hu, rfl⟩ := Language.mem_mul.mp htarget
    obtain ⟨⟨p, hp⟩, hfit⟩ := Template.exists_parse_of_mem_template hs hfit
    rcases hu with hdotted | hexpression | hescape
    · -- a top label holds no percent sign, so it is copied, and no dot, so it is found again
      obtain ⟨top, dot, htop, hdot, rfl⟩ := mem_dottedLabel_iff.mp hdotted
      have hpercent : '%' ∉ '.' :: (top ++ dot) := by
        have htop := notMem_topLabel htop (c := '%') (by decide) (by decide)
        rcases hdot with rfl | rfl <;> simpa using htop
      have hperiod : '.' ∉ top := notMem_topLabel htop (by decide) (by decide)
      refine ⟨by simp, p ++ ('.' :: (top ++ dot)).map .copy, ?_, .inr ⟨s, top, ?_, htop⟩⟩
      · rw [Template.parse_append hp, Template.parse_of_notMem hpercent]
        rfl
      · rw [dropDot_dotted htop hdot, Text.cutLast_append hperiod]
    · rw [← List.append_nil u] at hfit
      obtain ⟨e, he⟩ := Template.exists_readsAs_of_mem_expression hexpression hfit
      have hread : Template.parse .domain u = .ok [.expand e] := by
        rw [← List.append_nil u, he, Template.parse]
        rfl
      refine ⟨?_, p ++ [.expand e], ?_, .inl ?_⟩
      · rintro hnil
        obtain ⟨-, rfl⟩ := List.append_eq_nil_iff.mp hnil
        rw [Template.parse] at hread
        cases hread
      · rw [Template.parse_append hp, hread]
        rfl
      · rw [Template.endsInExpression, List.getLast?_concat]
    · exact absurd (Language.append_mem_mul hs hescape) hnot

/-- The counts of a text are looked up where its expressions may start. -/
lemma countsFit_of_tails (h : ∀ tail ∈ t.tails, tail.take 2 = ['%', '{'] →
    ∀ n ∈ Text.numeral? ((tail.drop 3).takeWhile Char.isDigit), 0 < n ∧ n < 2 ^ 64) : CountsFit t := by
  rintro digits ⟨front, -, c, rest, -, rfl, hdigits, hrest⟩ n hn
  refine h ('%' :: '{' :: c :: (digits ++ rest)) ((List.mem_tails _ _).mpr (List.suffix_append _ _)) rfl n ?_
  show Text.numeral? ((digits ++ rest).takeWhile Char.isDigit) = some n
  rwa [(Grammar.takeWhile_isDigit hdigits hrest).1]

/-- A target with an escape before its top label, and a dot after it. -/
theorem checkTarget_eq_ok_iff_dotted :
    (∀ c ∈ "%\x7bL10R+-\x7d%_b.c-1.".toList, Text.isVisible c = true) ∧ CountsFit "%\x7bL10R+-\x7d%_b.c-1.".toList ∧
      "%\x7bL10R+-\x7d%_b.c-1.".toList ∈ target ∧ "%\x7bL10R+-\x7d%_b.c-1.".toList ∉ template * escape := by
  have hvisible : ∀ c ∈ "%\x7bL10R+-\x7d%_b.c-1.".toList, Text.isVisible c = true :=
    List.all_eq_true.mp (by decide)
  have hfit : CountsFit "%\x7bL10R+-\x7d%_b.c-1.".toList := countsFit_of_tails (by decide +kernel)
  have hcheck : checkTarget "exists".toList "%\x7bL10R+-\x7d%_b.c-1.".toList = .ok () := by decide +kernel
  exact ⟨hvisible, hfit, (checkTarget_eq_ok_iff hvisible hfit).mp hcheck⟩

/-- The grammar derives a letter and an escape, which the check refuses. -/
theorem checkTarget_escape :
    (∀ c ∈ "a%%".toList, Text.isVisible c = true) ∧ CountsFit "a%%".toList ∧ "a%%".toList ∈ target ∧
      checkTarget "exists".toList "a%%".toList =
        .error (.invalidTarget "a%%".toList "expected at least two labels".toList) := by
  have hletter : ['a'] ∈ template := by
    rw [← List.append_nil ['a']]
    exact Grammar.append_mem_template (.inr ⟨'a', by decide, rfl⟩) (Language.nil_mem_kstar _)
  have hescape : ['%', '%'] ∈ dottedLabel + Grammar.macroExpand := .inr (.inr (.inl (.inl rfl)))
  refine ⟨List.all_eq_true.mp (by decide), countsFit_of_tails (by decide), ?_, by decide +kernel⟩
  exact Language.append_mem_mul hletter hescape

end Policy

end SenderPolicy
