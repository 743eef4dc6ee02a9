import SenderPolicy.Evaluation.Targets
import SenderPolicy.Proofs.Course
import SenderPolicy.Proofs.Templates

/-!
# Scopes of templates

A text is read alike in both scopes, unless the reading as a target stops at a letter that is reserved to explanations
(`widened_parse`). So what is found of a template where every letter is allowed is so of it in its own scope, too.

In particular a text that is found not to use the name of the client expands alike whatever that name is, also if it is
no template (`expand_of_not_usesValidatedName`). An engine that looks the name up only for a text that uses it therefore
finds the same as one that always does (`Engine.runFrom_expand`).
-/

namespace SenderPolicy

namespace Template

variable {α β : Type} {scope : Scope} {t : Text} {p : Template}

/-- Two readings, the second one with more letters: they are the same, unless the first one stops at a letter that only
the second one has. -/
inductive Widened : Except Error α → Except Error α → Prop where
  | same (x : Except Error α) : Widened x x
  | reserved (c : Char) (x : Except Error α) : Widened (.error (.explanationOnly c)) x

/-- Readings in two steps are the same but for reserved letters, if both steps are. -/
lemma Widened.bind {x y : Except Error α} {k l : α → Except Error β} (hxy : Widened x y)
    (hkl : ∀ a, Widened (k a) (l a)) : Widened (x >>= k) (y >>= l) := by
  cases hxy with
  | same x =>
    cases x with
    | error e => exact .same _
    | ok a => exact hkl a
  | reserved c y => exact .reserved c _

/-- Readings that go on alike. -/
lemma Widened.copies {x y : Except Error Template} (front : Template) (hxy : Widened x y) :
    Widened (x >>= fun p => pure (front ++ p)) (y >>= fun p => pure (front ++ p)) :=
  hxy.bind fun _ => .same _

/-- What is read with fewer letters is read with more. -/
lemma Widened.eq_ok {x y : Except Error α} {a : α} (hxy : Widened x y) (hx : x = .ok a) : y = .ok a := by
  cases hxy with
  | same x => exact hx
  | reserved c y => cases hx

/-- An error that is about no reserved letter is made with more letters, too. -/
lemma Widened.eq_error {x y : Except Error α} {e : Error} (hxy : Widened x y) (hx : x = .error e)
    (he : ∀ c, e ≠ .explanationOnly c) : y = .error e := by
  cases hxy with
  | same x => exact hx
  | reserved c y => exact absurd (Except.error.inj hx).symm (he c)

/-- An expression is read as in an explanation, unless its letter is reserved to explanations. -/
lemma widened_parse_expression (scope : Scope) (body : Text) :
    Widened (Expression.parse scope body) (Expression.parse .explanation body) := by
  cases body with
  | nil => exact .same _
  | cons c rest =>
    rw [Expression.parse, Expression.parse]
    cases hletter : Letter.ofChar? c with
    | none => exact .same _
    | some letter =>
      cases hreserved : letter.isReserved && scope != .explanation with
      | true =>
        simp only [hreserved, if_true]
        exact .reserved c _
      | false =>
        simp only [hreserved]
        simp only [bne_self_eq_false, Bool.and_false]
        exact .same _

/-- A text is read as in an explanation, unless a letter is reserved to explanations. -/
theorem widened_parse (scope : Scope) (t : Text) : Widened (parse scope t) (parse .explanation t) := by
  refine parse.induct (fun t => Widened (parse scope t) (parse .explanation t))
    (fun body t => Widened (parseBody scope body t) (parseBody .explanation body t))
    ?nil ?percent ?percents ?space ?encoded ?brace ?invalid ?copy ?unterminated ?close ?body t
  case nil =>
    rw [parse, parse]
    exact .same _
  case percent =>
    rw [parse, parse]
    exact .same _
  case percents =>
    intro rest ih
    rw [parse, parse]
    exact ih.copies [.copy '%']
  case space =>
    intro rest ih
    rw [parse, parse]
    exact ih.copies [.copy ' ']
  case encoded =>
    intro rest ih
    rw [parse, parse]
    exact ih.copies [.copy '%', .copy '2', .copy '0']
  case brace =>
    intro rest ih
    rw [parse, parse]
    exact ih
  case invalid =>
    intro c rest hpercent hspace hencoded hbrace
    rw [parse, parse]
    · exact .same _
    all_goals assumption
  case copy =>
    intro c rest h₁ h₂ h₃ h₄ h₅ h₆ ih
    rw [parse, parse]
    · exact ih.copies [.copy c]
    all_goals assumption
  case unterminated =>
    intro body
    rw [parseBody, parseBody]
    exact .same _
  case close =>
    -- the only place where the readings part: the letter of the expression may be reserved
    intro body rest ih
    rw [parseBody, parseBody]
    exact (widened_parse_expression scope body).bind fun e => ih.copies [.expand e]
  case body =>
    intro body c rest hc ih
    rw [parseBody, parseBody]
    · exact ih
    all_goals exact hc

/-! ## The name of the client -/

/-- No expression of a template that does not use the name of the client stands for it. -/
lemma ne_validatedName_of_mem (h : usesValidatedName p = false) {e : Expression} (he : .expand e ∈ p) :
    e.letter ≠ .validatedName := by
  intro hletter
  have hnot := List.any_eq_false.mp h (.expand e) he
  simp [hletter] at hnot

/-- What another letter stands for does not depend on the name of the client. -/
lemma value_eq_of_ne (x : Transaction) (name name' : Option Text) {letter : Letter} (h : letter ≠ .validatedName) :
    ({ x with validatedName := name } : Transaction).value letter =
      ({ x with validatedName := name' } : Transaction).value letter := by
  cases letter with
  | validatedName => exact absurd rfl h
  | sender | localPart | senderDomain | domain | address | addressFamily | helo | clientAddress | receiver | time => rfl

/-- A text that does not use the name of the client as a template of an explanation, or is none, expands alike in either
scope whatever the name is. -/
lemma expand_of_not_usesValidatedName (h : holds usesValidatedName t = false) (scope : Scope) (x : Transaction)
    (name name' : Option Text) :
    expand scope { x with validatedName := name } t = expand scope { x with validatedName := name' } t := by
  rw [expand, expand]
  cases hread : parse scope t with
  | error e => rfl
  | ok p =>
    rw [holds, (widened_parse scope t).eq_ok hread] at h
    exact congrArg Except.ok (render_congr fun e he => value_eq_of_ne x name name' (ne_validatedName_of_mem h he))

/-- The name of the client makes no difference to the expansion of a text that is found not to use it, in either scope.
What is a template of a target is the same template of an explanation; and what is none for a reason other than a letter
reserved to explanations is no template of an explanation, for the same reason. -/
theorem expand_eq_and_parse_explanation (t : Text) :
    (holds usesValidatedName t = false → ∀ (scope : Scope) (x : Transaction) (name name' : Option Text),
        expand scope { x with validatedName := name } t = expand scope { x with validatedName := name' } t) ∧
      (∀ p, parse .domain t = .ok p → parse .explanation t = .ok p) ∧
        ∀ e, parse .domain t = .error e → (∀ c, e ≠ .explanationOnly c) → parse .explanation t = .error e := by
  have hwidened := widened_parse .domain t
  refine ⟨fun h => expand_of_not_usesValidatedName h, fun p hp => ?_, fun e he hreserved => ?_⟩
  · exact hwidened.eq_ok hp
  · exact hwidened.eq_error he hreserved

/-- The letter of the client's name does not count behind an escaped percent sign, nor in a text that goes wrong after
it. -/
theorem expand_eq_and_parse_explanation_escaped :
    let x : Transaction := ⟨"u@b.example".toList, ⟨"u".toList, "b.example".toList⟩, "a.example".toList, .v4 ⟨1⟩,
      "h.example".toList, none, "unknown".toList, 0⟩
    let name := some "mx.b.example".toList
    (holds usesValidatedName "%%{p}.%{l}".toList = false ∧
        expand .domain { x with validatedName := name } "%%{p}.%{l}".toList = .ok "%{p}.u".toList ∧
        expand .domain { x with validatedName := name } "%%{p}.%{l}".toList = expand .domain x "%%{p}.%{l}".toList) ∧
      (holds usesValidatedName "%{p}.%{l}%".toList = false ∧
        expand .explanation { x with validatedName := name } "%{p}.%{l}%".toList =
          expand .explanation x "%{p}.%{l}%".toList) ∧
      parse .explanation "%{P2}".toList = parse .domain "%{P2}".toList ∧
      parse .explanation "%{p}.%{l0}%{c}".toList = .error (.invalidTransformer "l0".toList) := by
  intro x name
  have hescaped : holds usesValidatedName "%%{p}.%{l}".toList = false := by decide +kernel
  have hbroken : holds usesValidatedName "%{p}.%{l}%".toList = false := by decide +kernel
  have hread : parse .domain "%{P2}".toList = .ok [.expand ⟨.validatedName, true, ⟨some 2, false, []⟩⟩] := by
    decide +kernel
  have hrefused : parse .domain "%{p}.%{l0}%{c}".toList = .error (.invalidTransformer "l0".toList) := by decide +kernel
  refine ⟨⟨hescaped, by decide +kernel, ?_⟩, ⟨hbroken, ?_⟩, ?_, ?_⟩
  · exact (expand_eq_and_parse_explanation _).1 hescaped .domain x name none
  · exact (expand_eq_and_parse_explanation _).1 hbroken .explanation x name none
  · rw [hread]
    exact (expand_eq_and_parse_explanation _).2.1 _ hread
  · exact (expand_eq_and_parse_explanation _).2.2 _ hrefused nofun

end Template

namespace Engine

variable {σ : Type}

/-- A text expands as if the name of the client had been looked up in any case, and it is looked up only for a text that
uses it. -/
theorem runFrom_expand (E : Engine σ) (scope : Scope) (r : Request) (t : Text) (s : Session σ) :
    (E.expand scope r t).runFrom s =
      (Template.expand scope (E.transaction r ((E.validatedName r).runFrom s).1) t,
        if Template.holds Template.usesValidatedName t then ((E.validatedName r).runFrom s).2 else s) := by
  rw [expand]
  cases huses : Template.holds Template.usesValidatedName t with
  | true => rfl
  | false =>
    refine Prod.ext ?_ rfl
    exact Template.expand_of_not_usesValidatedName huses scope (E.transaction r none) none _

end Engine

end SenderPolicy
