import SenderPolicy.Proofs.Grammar
import SenderPolicy.Proofs.Scopes
import SenderPolicy.Proofs.Targets

/-!
# Macro-strings and templates

What is derived as a macro-string is read as a template (`exists_parse_of_mem_template`), and what is read as a template
of visible characters is derived as a macro-string (`derived_parse`). A template of a target is one of an explanation,
too (`parse_explanation`). And a template may be cut at a dot that no brace follows (`exists_parse_of_append`), because
no escape has a dot and no expression is left open there.
-/

namespace SenderPolicy

open scoped Computability

namespace Template

open Grammar (CountsFit expression escape macroExpand literal template)

variable {scope : Scope} {b front s t u rest : Text} {p : Template} {read : Except Error Template}

/-! ## What is derived is read -/

/-- Characters other than the closing brace belong to the expression that is open. -/
lemma parseBody_append (hb : '}' ∉ b) : parseBody scope front (b ++ rest) = parseBody scope (front ++ b) rest := by
  induction b generalizing front with
  | nil => rw [List.nil_append, List.append_nil]
  | cons c b ih =>
    have hc : c ≠ '}' := fun h => hb (h ▸ List.mem_cons_self)
    rw [List.cons_append, parseBody, ih fun h => hb (List.mem_cons_of_mem c h), List.append_assoc,
      List.singleton_append]
    exact hc

/-- Braces around the body of an expression are read as that expression, whatever follows them. -/
lemma readsAs_expression {e : Expression} (hb : '}' ∉ b) (he : Expression.parse scope b = .ok e) :
    ReadsAs (parse scope) scope ('%' :: '{' :: (b ++ ['}'])) [.expand e] := by
  intro t
  rw [List.cons_append, List.cons_append, parse, List.append_assoc, parseBody_append hb]
  exact readsAs_close he t

/-- A text that ends in an expression is read as such. -/
lemma exists_readsAs_of_mem_expression (hu : u ∈ expression) (hfit : CountsFit (u ++ t)) :
    ∃ e, ReadsAs (parse .domain) .domain u [.expand e] := by
  simp only [expression, mul_assoc, Grammar.mem_singleton_mul] at hu
  obtain ⟨_, ⟨b, hb, _, rfl, rfl⟩, rfl⟩ := hu
  obtain ⟨c, digits, sign, delimiters, hc, hparts, rfl⟩ := Grammar.mem_body_iff.mp hb
  have hfit' : CountsFit ('%' :: '{' :: (c :: (digits ++ (sign ++ delimiters)) ++ '}' :: t)) := by
    simpa using hfit
  obtain ⟨e, he⟩ := hparts.exists_parse (hfit'.isCount hc hparts) hc
  exact ⟨e, readsAs_expression (Grammar.brace_notMem_body hb) he⟩

/-- An expression, an escape or a literal is read by itself, whatever follows it. -/
lemma exists_readsAs_of_mem_piece (hu : u ∈ macroExpand + literal) (hfit : CountsFit (u ++ t)) :
    ∃ p, ReadsAs (parse .domain) .domain u p := by
  rcases hu with (hexpression | ((rfl | rfl) | rfl)) | ⟨c, hc, rfl⟩
  · obtain ⟨e, he⟩ := exists_readsAs_of_mem_expression hexpression hfit
    exact ⟨[.expand e], he⟩
  · exact ⟨_, readsAs_percents⟩
  · exact ⟨_, readsAs_space⟩
  · exact ⟨_, readsAs_encoded⟩
  · rw [Bool.and_eq_true, bne_iff_ne] at hc
    exact ⟨_, readsAs_copy hc.2⟩

/-- What is derived as a macro-string is read as a template, whatever follows it. -/
theorem exists_parse_of_mem_template (hs : s ∈ template) (hfit : CountsFit (s ++ t)) :
    (∃ p, parse .domain s = .ok p) ∧ CountsFit t := by
  obtain ⟨pieces, rfl, hpieces⟩ := Language.mem_kstar.mp hs
  clear hs
  induction pieces with
  | nil => exact ⟨⟨[], by rw [List.flatten_nil, parse]⟩, hfit⟩
  | cons u pieces ih =>
    obtain ⟨hu, hpieces⟩ := List.forall_mem_cons.mp hpieces
    rw [List.flatten_cons, List.append_assoc] at hfit
    obtain ⟨p, hp⟩ := exists_readsAs_of_mem_piece hu hfit
    obtain ⟨⟨q, hq⟩, ht⟩ := ih hpieces (hfit.drop hu)
    refine ⟨⟨p ++ q, ?_⟩, ht⟩
    rw [List.flatten_cons, hp, hq]
    rfl

/-! ## What is read is derived -/

/-- What a reader makes of a text of visible characters is derived as a macro-string, and as one with an expression
after it if it ends in an expression. -/
def Derived (t : Text) (read : Except Error Template) : Prop :=
  (∀ c ∈ t, Text.isVisible c = true) → ∀ p, read = .ok p →
    t ∈ template ∧ (p = [] → t = []) ∧ (endsInExpression p = true → t ∈ template * expression)

/-- Nothing is to be derived where the reader fails. -/
lemma Derived.error {e : Error} : Derived t (.error e) :=
  fun _ _ h => nomatch h

/-- Pieces that are copied do not count where a template ends in an expression behind them. -/
lemma endsInExpression_of_copies (cs : List Char) (h : endsInExpression (cs.map .copy ++ p) = true) :
    endsInExpression p = true := by
  rw [endsInExpression, List.getLast?_append] at h
  rw [endsInExpression]
  cases hlast : p.getLast? with
  | some piece => rwa [hlast, Option.some_or] at h
  | none =>
    rw [hlast, Option.none_or, List.getLast?_map] at h
    cases hc : cs.getLast? <;> simp [hc] at h

/-- A piece in front leaves the expression at the end. -/
lemma append_mem_template_mul (hu : u ∈ macroExpand + literal) (ht : t ∈ template * expression) :
    u ++ t ∈ template * expression := by
  obtain ⟨s, hs, e, he, rfl⟩ := Language.mem_mul.mp ht
  exact Language.mem_mul.mpr ⟨u ++ s, Grammar.append_mem_template hu hs, e, he, List.append_assoc u s e⟩

/-- A piece that is copied, in front of what is derived. -/
lemma Derived.copies (hu : (∀ c ∈ u, Text.isVisible c = true) → u ∈ macroExpand + literal) (c : Char) (cs : List Char)
    (h : Derived rest read) : Derived (u ++ rest) (read >>= fun p => pure ((c :: cs).map .copy ++ p)) := by
  intro hvisible p hread
  obtain ⟨q, hq, hp⟩ := exists_of_bind_eq_ok hread
  obtain rfl := Except.ok.inj hp
  obtain ⟨htemplate, -, hend⟩ := h (fun d hd => hvisible d (List.mem_append_right u hd)) q hq
  have hpiece := hu fun d hd => hvisible d (List.mem_append_left rest hd)
  exact ⟨Grammar.append_mem_template hpiece htemplate, nofun, fun hexpression =>
    append_mem_template_mul hpiece (hend (endsInExpression_of_copies _ hexpression))⟩

/-- An expression in front of what is derived. -/
lemma Derived.expand (h : Derived rest read) :
    Derived ('%' :: '{' :: (b ++ '}' :: rest))
      (do let e ← Expression.parse .domain b; let p ← read; return .expand e :: p) := by
  intro hvisible p hread
  obtain ⟨e, he, hread⟩ := exists_of_bind_eq_ok hread
  obtain ⟨q, hq, hp⟩ := exists_of_bind_eq_ok hread
  obtain rfl := Except.ok.inj hp
  have hparts : '%' :: '{' :: (b ++ '}' :: rest) = '%' :: '{' :: (b ++ ['}']) ++ rest := by simp
  rw [hparts] at hvisible ⊢
  obtain ⟨htemplate, hnil, hend⟩ := h (fun d hd => hvisible d (List.mem_append_right _ hd)) q hq
  have hexpression : '%' :: '{' :: (b ++ ['}']) ∈ expression := by
    simp only [expression, mul_assoc, Grammar.mem_singleton_mul]
    exact ⟨b ++ ['}'], Language.append_mem_mul (Grammar.mem_body_of_parse he) rfl, rfl⟩
  have hpiece : '%' :: '{' :: (b ++ ['}']) ∈ macroExpand + literal := .inl (.inl hexpression)
  refine ⟨Grammar.append_mem_template hpiece htemplate, nofun, fun hlast => ?_⟩
  cases q with
  | nil =>
    -- nothing follows, so this expression is the end
    rw [hnil rfl, List.append_nil, ← List.nil_append ('%' :: _)]
    exact Language.append_mem_mul (Language.nil_mem_kstar _) hexpression
  | cons piece q =>
    rw [endsInExpression, List.getLast?_cons_cons] at hlast
    exact append_mem_template_mul hpiece (hend hlast)

/-- What is read as a template of visible characters is derived as a macro-string. -/
theorem derived_parse (t : Text) : Derived t (parse .domain t) := by
  -- what was read inside braces is part of the text, from its percent sign on
  refine parse.induct (fun t => Derived t (parse .domain t))
    (fun body t => Derived ('%' :: '{' :: (body ++ t)) (parseBody .domain body t))
    ?nil ?percent ?percents ?space ?encoded ?brace ?invalid ?copy ?unterminated ?close ?body t
  case nil =>
    intro _ p hread
    rw [parse] at hread
    obtain rfl := Except.ok.inj hread
    refine ⟨Language.nil_mem_kstar _, fun _ => rfl, ?_⟩
    rintro ⟨⟩
  case percent =>
    rw [parse]
    exact .error
  case percents =>
    intro rest ih
    rw [parse]
    exact ih.copies (fun _ => .inl (.inr (.inl (.inl rfl)))) '%' []
  case space =>
    intro rest ih
    rw [parse]
    exact ih.copies (fun _ => .inl (.inr (.inl (.inr rfl)))) ' ' []
  case encoded =>
    intro rest ih
    rw [parse]
    exact ih.copies (fun _ => .inl (.inr (.inr rfl))) '%' ['2', '0']
  case brace =>
    intro rest ih
    rw [parse]
    exact ih
  case invalid =>
    intro c rest hpercent hspace hencoded hbrace
    rw [parse]
    · exact .error
    all_goals assumption
  case copy =>
    intro c rest hlone h₁ h₂ h₃ h₄ hescape ih
    rw [parse]
    · refine ih.copies (u := [c]) (fun hvisible => .inr ⟨c, ?_, rfl⟩) c []
      rw [Bool.and_eq_true, bne_iff_ne]
      refine ⟨hvisible c (List.mem_singleton_self c), fun hc => ?_⟩
      cases rest with
      | nil => exact hlone hc rfl
      | cons d rest => exact hescape d rest hc rfl
    all_goals assumption
  case unterminated =>
    intro body
    rw [parseBody]
    exact .error
  case close =>
    intro body rest ih
    rw [parseBody]
    exact ih.expand
  case body =>
    intro body c rest hc ih
    rw [parseBody, List.append_cons]
    · exact ih
    · exact hc

/-! ## Explanations -/

/-- Both readings of a text give a template only together, and the same. -/
def ReadAlike (read read' : Except Error Template) : Prop :=
  ∀ p, read = .ok p → read' = .ok p

/-- A target is read as an explanation is. -/
theorem parse_explanation (t : Text) : ReadAlike (parse .domain t) (parse .explanation t) :=
  fun _ => (widened_parse .domain t).eq_ok

/-- What is asked of a text as a template is asked of the template that it is read as. -/
lemma holds_of_parse {f : Template → Bool} (h : parse .domain t = .ok p) : holds f t = f p := by
  rw [holds, parse_explanation t p h]

/-! ## Cuts at a dot -/

/-- An expression that is never closed is an error. -/
lemma parseBody_of_notMem (ht : '}' ∉ t) : parseBody scope front t = .error .unterminated := by
  have happend : parseBody scope front (t ++ []) = parseBody scope (front ++ t) [] := parseBody_append ht
  rw [List.append_nil] at happend
  rw [happend, parseBody]

/-- What a text is cut to that starts with pieces read whatever follows them. -/
lemma ReadsAs.exists_of_append {read : Text → Except Error Template} (hu : ReadsAs read scope u p)
    (hrest : ∀ q, parse scope (rest ++ t) = .ok q → ∃ r, parse scope rest = .ok r) {q : Template}
    (h : read (u ++ rest ++ t) = .ok q) : ∃ r, read (u ++ rest) = .ok r := by
  rw [List.append_assoc, hu] at h
  obtain ⟨q, hq, -⟩ := exists_of_map_eq_ok h
  obtain ⟨r, hr⟩ := hrest q hq
  exact ⟨p ++ r, by rw [hu, hr]; rfl⟩

/-- A dot that no brace follows is no part of an expression, so what stands before it is read by itself. -/
theorem exists_parse_of_append (ht : '}' ∉ t) (h : parse scope (s ++ '.' :: t) = .ok p) :
    ∃ q, parse scope s = .ok q := by
  refine parse.induct (fun s => ∀ p, parse scope (s ++ '.' :: t) = .ok p → ∃ q, parse scope s = .ok q)
    (fun body s => ∀ p, parseBody scope body (s ++ '.' :: t) = .ok p → ∃ q, parseBody scope body s = .ok q)
    ?nil ?percent ?percents ?space ?encoded ?brace ?invalid ?copy ?unterminated ?close ?body s p h
  case nil =>
    intro p _
    exact ⟨[], by rw [parse]⟩
  case percent =>
    -- a percent sign and a dot are no escape
    intro p h
    rw [List.singleton_append, parse] at h
    · cases h
    all_goals decide
  case percents =>
    intro rest ih p h
    exact readsAs_percents.exists_of_append ih h
  case space =>
    intro rest ih p h
    exact readsAs_space.exists_of_append ih h
  case encoded =>
    intro rest ih p h
    exact readsAs_encoded.exists_of_append ih h
  case brace =>
    intro rest ih p h
    rw [List.cons_append, List.cons_append, parse] at h
    rw [parse]
    exact ih p h
  case invalid =>
    intro c rest hpercent hspace hencoded hbrace p h
    rw [List.cons_append, List.cons_append, parse] at h
    · cases h
    all_goals assumption
  case copy =>
    intro c rest hlone _ _ _ _ hescape ih p h
    have hc : c ≠ '%' := by
      intro hc
      cases rest with
      | nil => exact hlone hc rfl
      | cons d rest => exact hescape d rest hc rfl
    exact (readsAs_copy hc).exists_of_append ih h
  case unterminated =>
    intro body p h
    have hbrace : '}' ∉ '.' :: t := List.not_mem_cons_of_ne_of_not_mem (by decide) ht
    rw [List.nil_append, parseBody_of_notMem hbrace] at h
    cases h
  case close =>
    intro body rest ih p h
    have hread := h
    rw [List.cons_append, parseBody] at hread
    obtain ⟨e, he, -⟩ := exists_of_bind_eq_ok hread
    exact (readsAs_close he).exists_of_append ih h
  case body =>
    intro body c rest hc ih p h
    rw [List.cons_append, parseBody] at h
    · rw [parseBody]
      · exact ih p h
      · exact hc
    · exact hc

end Template

end SenderPolicy
