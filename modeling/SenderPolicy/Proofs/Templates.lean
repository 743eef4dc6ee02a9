import Mathlib.Tactic.Lemma
import SenderPolicy.Proofs.Reading
import SenderPolicy.Template.Expansion

/-!
# Templates in a row

A text that is read as a template is read so whatever follows it (`parse_append`), because no escape and no expression
is left open at its end. A text without percent signs is read as its characters. So what a template expands to is
known from the expansions of its parts (`expand_append`). And what is so of each expression that can be read is so of
all in a template (`eachExpression_parse`).
-/

namespace SenderPolicy.Template

variable {scope : Scope} {s t u : Text} {p q : Template}

/-- The text is read as the pieces, and what follows it as if it stood alone. -/
def ReadsAs (read : Text → Except Error Template) (scope : Scope) (s : Text) (p : Template) : Prop :=
  ∀ t, read (s ++ t) = (parse scope t).map (p ++ ·)

/-- Two texts in a row are read as the pieces of both. -/
lemma ReadsAs.append {read : Text → Except Error Template} (hs : ReadsAs read scope s p)
    (ht : ReadsAs (parse scope) scope t q) : ReadsAs read scope (s ++ t) (p ++ q) := by
  intro u
  rw [List.append_assoc, hs, ht]
  cases parse scope u with
  | error e => rfl
  | ok r => exact congrArg Except.ok (List.append_assoc p q r).symm

/-- Two percent signs are read as one of them. -/
lemma readsAs_percents : ReadsAs (parse scope) scope ['%', '%'] [.copy '%'] := by
  intro t
  rw [List.cons_append, List.cons_append, List.nil_append, parse]
  cases parse scope t <;> rfl

/-- A percent sign and an underscore are read as a space. -/
lemma readsAs_space : ReadsAs (parse scope) scope ['%', '_'] [.copy ' '] := by
  intro t
  rw [List.cons_append, List.cons_append, List.nil_append, parse]
  cases parse scope t <;> rfl

/-- A percent sign and a hyphen are read as an encoded space. -/
lemma readsAs_encoded : ReadsAs (parse scope) scope ['%', '-'] [.copy '%', .copy '2', .copy '0'] := by
  intro t
  rw [List.cons_append, List.cons_append, List.nil_append, parse]
  cases parse scope t <;> rfl

/-- A character other than a percent sign is read as itself. -/
lemma readsAs_copy {c : Char} (hc : c ≠ '%') : ReadsAs (parse scope) scope [c] [.copy c] := by
  intro t
  rw [List.cons_append, List.nil_append, parse]
  · cases parse scope t <;> rfl
  all_goals simp [hc]

/-- A brace after the text of an expression is read as that expression. -/
lemma readsAs_close {body : Text} {e : Expression} (h : Expression.parse scope body = .ok e) :
    ReadsAs (parseBody scope body) scope ['}'] [.expand e] := by
  intro t
  rw [List.cons_append, List.nil_append, parseBody, h]
  cases parse scope t <;> rfl

/-- What starts with a text that is read whatever follows is read so itself if its rest is. -/
lemma ReadsAs.step {read : Text → Except Error Template} (hs : ReadsAs read scope s p)
    (ht : ∀ q, parse scope t = .ok q → ReadsAs (parse scope) scope t q) {r : Template}
    (h : read (s ++ t) = .ok r) : ReadsAs read scope (s ++ t) r := by
  rw [hs] at h
  obtain ⟨q, hq, rfl⟩ := exists_of_map_eq_ok h
  exact hs.append (ht q hq)

/-- A template at the front of a text is read as if it stood alone. -/
theorem parse_append (h : parse scope s = .ok p) (t : Text) :
    parse scope (s ++ t) = (parse scope t).map (p ++ ·) := by
  -- a template may be cut inside braces, so what is proved goes for the reader of an expression, too
  refine parse.induct (fun s => ∀ p, parse scope s = .ok p → ReadsAs (parse scope) scope s p)
    (fun body s => ∀ p, parseBody scope body s = .ok p → ReadsAs (parseBody scope body) scope s p)
    ?nil ?percent ?percents ?space ?encoded ?brace ?invalid ?copy ?unterminated ?close ?body s p h t
  case nil =>
    intro p h t
    rw [parse] at h
    obtain rfl := (Except.ok.inj h).symm
    cases hread : parse scope t <;> simp [hread, Except.map]
  case percent =>
    intro p h
    rw [parse] at h
    cases h
  case percents =>
    intro rest ih p h
    exact readsAs_percents.step ih h
  case space =>
    intro rest ih p h
    exact readsAs_space.step ih h
  case encoded =>
    intro rest ih p h
    exact readsAs_encoded.step ih h
  case brace =>
    intro rest ih p h t
    rw [parse] at h
    rw [List.cons_append, List.cons_append, parse]
    exact ih p h t
  case invalid =>
    intro c rest hpercent hspace hencoded hbrace p h
    rw [parse] at h
    · cases h
    all_goals assumption
  case copy =>
    intro c rest hlone _ _ _ _ hescape ih p h
    -- no percent sign is left for this case: it stands alone, or before one of the characters of other cases
    have hc : c ≠ '%' := by
      intro hc
      cases rest with
      | nil => exact hlone hc rfl
      | cons d rest => exact hescape d rest hc rfl
    exact (readsAs_copy hc).step ih h
  case unterminated =>
    intro body p h
    rw [parseBody] at h
    cases h
  case close =>
    intro body rest ih p h
    have hread := h
    rw [parseBody] at hread
    obtain ⟨e, he, -⟩ := exists_of_bind_eq_ok hread
    exact (readsAs_close he).step ih h
  case body =>
    intro body c rest hc ih p h t
    rw [parseBody] at h
    · rw [List.cons_append, parseBody]
      · exact ih p h t
      · exact hc
    · exact hc

/-- A text without percent signs is read as its characters. -/
lemma parse_of_notMem (h : '%' ∉ t) : parse scope t = .ok (t.map .copy) := by
  induction t with
  | nil => rw [parse, List.map_nil]
  | cons c t ih =>
    have hc : c ≠ '%' := fun hc => h (hc ▸ List.mem_cons_self)
    have ht := ih fun ht => h (List.mem_cons_of_mem c ht)
    have hread : parse scope ([c] ++ t) = _ := readsAs_copy hc t
    rw [ht] at hread
    exact hread

/-- Characters to copy are copied. -/
lemma render_copies (x : Transaction) (t : Text) : render x (t.map .copy) = t := by
  induction t with
  | nil => rfl
  | cons c t ih =>
    rw [List.map_cons, render, List.flatMap_cons, ← render, ih]
    rfl

/-- Only what the expressions of a template stand for tells in its text. -/
lemma render_congr {x y : Transaction} (h : ∀ e, .expand e ∈ p → x.value e.letter = y.value e.letter) :
    render x p = render y p := by
  induction p with
  | nil => rfl
  | cons piece p ih =>
    have hrest := ih fun e he => h e (List.mem_cons_of_mem _ he)
    have hpiece : expandPiece x piece = expandPiece y piece := by
      cases piece with
      | copy c => rfl
      | expand e => rw [expandPiece, expandPiece, Expression.expand, Expression.expand, h e List.mem_cons_self]
    rw [render, render] at hrest ⊢
    rw [List.flatMap_cons, List.flatMap_cons, hpiece, hrest]

/-- Pieces are filled in one after the other. -/
lemma render_append (x : Transaction) (p q : Template) : render x (p ++ q) = render x p ++ render x q :=
  List.flatMap_append

/-- What follows a template without percent signs is copied. -/
theorem expand_append_of_notMem {x : Transaction} {front : Text} (h : expand scope x s = .ok front) (ht : '%' ∉ t) :
    expand scope x (s ++ t) = .ok (front ++ t) := by
  obtain ⟨p, hp, rfl⟩ := exists_of_map_eq_ok h
  rw [expand, parse_append hp, parse_of_notMem ht]
  refine congrArg Except.ok ?_
  rw [render_append, render_copies]

/-- What follows a template that expands is expanded by itself: its text is put behind the first one's, and its error is
the error of the whole. -/
theorem expand_append {x : Transaction} {front : Text} (h : expand scope x s = .ok front) (t : Text) :
    expand scope x (s ++ t) = (expand scope x t).map (front ++ ·) := by
  obtain ⟨p, hp, rfl⟩ := exists_of_map_eq_ok h
  rw [expand, expand, parse_append hp]
  cases parse scope t with
  | error e => rfl
  | ok q => exact congrArg Except.ok (render_append x p q)

/-- A text may be cut between an escaped percent sign and a brace, and an error behind the cut is that of the whole. -/
theorem expand_append_escapes :
    let x : Transaction := ⟨"u-v@b.example".toList, ⟨"u-v".toList, "b.example".toList⟩, "a.example".toList, .v4 ⟨1⟩,
      "h.example".toList, none, "unknown".toList, 0⟩
    let s := "%{lr-}%-%%".toList
    expand .domain x s = .ok "v.u%20%".toList ∧
      expand .domain x (s ++ "{o}%{o1}".toList) = .ok "v.u%20%{o}example".toList ∧
      expand .domain x (s ++ "{o}%{c}".toList) = .error (.explanationOnly 'c') := by
  intro x s
  have hs : expand .domain x s = .ok "v.u%20%".toList := by decide +kernel
  refine ⟨hs, ?_, ?_⟩
  · rw [expand_append hs]
    decide +kernel
  · rw [expand_append hs]
    decide +kernel

/-- A transformer that says nothing changes nothing. -/
lemma apply_plain (t : Text) : Transformer.apply ⟨none, false, []⟩ t = t :=
  List.intercalate_splitOn '.'

/-- A letter by itself expands to what it stands for. -/
lemma expand_letter (x : Transaction) (letter : Letter)
    (h : parse scope t = .ok [.expand ⟨letter, false, ⟨none, false, []⟩⟩]) :
    expand scope x t = .ok (x.value letter) := by
  rw [expand, h]
  exact congrArg Except.ok ((List.append_nil _).trans (apply_plain _))

/-! ## Expressions of a template -/

section

variable {P : Expression → Prop} {read : Except Error Template}

/-- Every expression that is read is as it should be. -/
def EachExpression (P : Expression → Prop) (read : Except Error Template) : Prop :=
  ∀ p, read = .ok p → ∀ e, .expand e ∈ p → P e

/-- An error has no expressions. -/
lemma EachExpression.error {e : Error} : EachExpression P (.error e) :=
  nofun

/-- Characters to copy are no expressions. -/
lemma EachExpression.copies (cs : List Char) (h : EachExpression P read) :
    EachExpression P (read >>= fun p => pure (cs.map .copy ++ p)) := by
  intro p hread e he
  obtain ⟨q, hq, hp⟩ := exists_of_bind_eq_ok hread
  obtain rfl := Except.ok.inj hp
  rcases List.mem_append.mp he with hcopy | hrest
  · obtain ⟨c, -, hc⟩ := List.mem_map.mp hcopy
    cases hc
  · exact h q hq e hrest

variable (hP : ∀ body e, Expression.parse scope body = .ok e → P e)

include hP

/-- One more expression is as it should be, too. -/
lemma EachExpression.expand {body : Text} (h : EachExpression P read) :
    EachExpression P (do let e ← Expression.parse scope body; let p ← read; return .expand e :: p) := by
  intro p hread e he
  obtain ⟨first, hfirst, hread⟩ := exists_of_bind_eq_ok hread
  obtain ⟨q, hq, hp⟩ := exists_of_bind_eq_ok hread
  obtain rfl := Except.ok.inj hp
  rcases List.mem_cons.mp he with heq | hrest
  · cases heq
    exact hP body _ hfirst
  · exact h q hq e hrest

/-- What is so of every expression that can be read is so of all in a template. -/
theorem eachExpression_parse (t : Text) : EachExpression P (parse scope t) := by
  refine parse.induct (fun t => EachExpression P (parse scope t))
    (fun body t => EachExpression P (parseBody scope body t))
    ?nil ?percent ?percents ?space ?encoded ?brace ?invalid ?copy ?unterminated ?close ?body t
  case nil =>
    intro p hread e he
    rw [parse] at hread
    obtain rfl := Except.ok.inj hread
    cases he
  case percent =>
    rw [parse]
    exact .error
  case percents =>
    intro rest ih
    rw [parse]
    exact ih.copies ['%']
  case space =>
    intro rest ih
    rw [parse]
    exact ih.copies [' ']
  case encoded =>
    intro rest ih
    rw [parse]
    exact ih.copies ['%', '2', '0']
  case brace =>
    intro rest ih
    rw [parse]
    exact ih
  case invalid =>
    intro c rest hpercent hspace hencoded hbrace
    rw [parse]
    · exact .error
    all_goals assumption
  case copy =>
    intro c rest h₁ h₂ h₃ h₄ h₅ h₆ ih
    rw [parse]
    · exact ih.copies [c]
    all_goals assumption
  case unterminated =>
    intro body
    rw [parseBody]
    exact .error
  case close =>
    intro body rest ih
    rw [parseBody]
    exact ih.expand hP
  case body =>
    intro body c rest hc ih
    rw [parseBody]
    · exact ih
    · exact hc

end

end SenderPolicy.Template
