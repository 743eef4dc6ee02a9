import SenderPolicy.Proofs.AddressText
import SenderPolicy.Proofs.Lockstep

/-!
# Reading a trace field

A trace field is read as the pieces between the semicolons that stand outside of quotation marks. The sender and the
failure stand between such marks, and lose their own or show them as something else, so whatever they hold they stay in
their place. The HELO identity stands there as it is. So the pieces are the fields of the outcome exactly if that
identity is sealed: it has no semicolon outside of quotation marks, and closes those it opens (`trace_pieces_iff`).

Line breaks are kept wherever they come from.
-/

namespace SenderPolicy

/-! ## Pieces -/

namespace Text

/-- Whether a text goes on inside of quotation marks after a character. -/
def turn (quoted : Bool) (c : Char) : Bool :=
  if c = '"' then !quoted else quoted

/-- The pieces of a text between the semicolons that stand outside of quotation marks. The text may start inside. -/
def unquotedPieces (quoted : Bool) : Text → List Text
  | [] => [[]]
  | c :: t =>
    if c = ';' ∧ quoted = false then [] :: unquotedPieces false t
    else (unquotedPieces (turn quoted c) t).modifyHead (c :: ·)

/-- No semicolon of the text stands outside of quotation marks, and the text ends outside. -/
def isSealed (quoted : Bool) : Text → Bool
  | [] => !quoted
  | c :: t => if c = ';' ∧ quoted = false then false else isSealed (turn quoted c) t

variable {quoted : Bool} {s t : Text}

/-- A text is sealed if it starts with no semicolon outside of quotation marks, and what follows is sealed. -/
lemma isSealed_cons {c : Char} :
    isSealed quoted (c :: t) = true ↔ ¬(c = ';' ∧ quoted = false) ∧ isSealed (turn quoted c) t = true := by
  rw [isSealed]
  split
  · next hc => exact iff_of_false Bool.false_ne_true fun h => h.1 hc
  · next hc => exact (and_iff_right hc).symm

/-- What follows a sealed text is read as if it stood alone. -/
lemma isSealed_append (h : isSealed quoted s = true) (t : Text) : isSealed quoted (s ++ t) = isSealed false t := by
  induction s generalizing quoted with
  | nil =>
    have hquoted : quoted = false := by simpa [isSealed] using h
    rw [hquoted, List.nil_append]
  | cons c s ih =>
    obtain ⟨hc, hs⟩ := isSealed_cons.mp h
    rw [List.cons_append, Bool.eq_iff_iff, isSealed_cons, ih hs]
    exact and_iff_right hc

/-- A sealed text before another belongs to the first piece of that. -/
lemma unquotedPieces_append (h : isSealed quoted s = true) (t : Text) :
    unquotedPieces quoted (s ++ t) = (unquotedPieces false t).modifyHead (s ++ ·) := by
  induction s generalizing quoted with
  | nil =>
    have hquoted : quoted = false := by simpa [isSealed] using h
    rw [hquoted, List.nil_append]
    cases unquotedPieces false t with
    | nil => rfl
    | cons u us => rfl
  | cons c s ih =>
    obtain ⟨hc, hs⟩ := isSealed_cons.mp h
    rw [List.cons_append, unquotedPieces, if_neg hc, ih hs, List.modifyHead_modifyHead]
    rfl

/-- A sealed text before a semicolon is a piece. -/
lemma unquotedPieces_append_semicolon (h : isSealed quoted s = true) (t : Text) :
    unquotedPieces quoted (s ++ ';' :: t) = s :: unquotedPieces false t := by
  rw [unquotedPieces_append h, unquotedPieces, if_pos ⟨rfl, rfl⟩, List.modifyHead_cons, List.append_nil]

/-- Every piece but the last is sealed. -/
lemma isSealed_of_unquotedPieces_eq {u : Text} {us : List Text} (h : unquotedPieces quoted t = s :: u :: us) :
    isSealed quoted s = true := by
  induction t generalizing quoted s with
  | nil => cases h
  | cons c t ih =>
    rw [unquotedPieces] at h
    split at h
    · next hc =>
      obtain ⟨rfl, -⟩ := List.cons.inj h
      rw [hc.2]
      rfl
    · next hc =>
      rcases hrest : unquotedPieces (turn quoted c) t with _ | ⟨s', us'⟩
      · rw [hrest] at h
        cases h
      · rw [hrest, List.modifyHead_cons] at h
        obtain ⟨rfl, rfl⟩ := List.cons.inj h
        exact isSealed_cons.mpr ⟨hc, ih hrest⟩

/-- Texts that each end in a semicolon are read as themselves if and only if all are sealed. -/
theorem unquotedPieces_flatMap_iff (ts : List Text) :
    unquotedPieces false (ts.flatMap (· ++ [';'])) = ts ++ [[]] ↔ ∀ t ∈ ts, isSealed false t = true := by
  induction ts with
  | nil => exact iff_of_true rfl nofun
  | cons t ts ih =>
    have hcons : (t :: ts).flatMap (· ++ [';']) = t ++ ';' :: ts.flatMap (· ++ [';']) := by simp
    rw [hcons, List.forall_mem_cons, ← ih]
    refine ⟨fun h => ?_, fun ⟨ht, hts⟩ => ?_⟩
    · have ht : isSealed false t = true := by
        cases ts with
        | nil => exact isSealed_of_unquotedPieces_eq h
        | cons u ts => exact isSealed_of_unquotedPieces_eq h
      rw [unquotedPieces_append_semicolon ht] at h
      exact ⟨ht, (List.cons.inj h).2⟩
    · rw [unquotedPieces_append_semicolon ht, hts, List.cons_append]

/-! ## Sealed texts -/

/-- A text without semicolons and quotation marks is sealed. -/
lemma isSealed_of_plain (h : ∀ c ∈ t, c ≠ ';' ∧ c ≠ '"') : isSealed false t = true := by
  induction t with
  | nil => rfl
  | cons c t ih =>
    obtain ⟨hsemicolon, hmark⟩ := h c List.mem_cons_self
    refine isSealed_cons.mpr ⟨fun hc => hsemicolon hc.1, ?_⟩
    rw [turn, if_neg hmark]
    exact ih fun c hc => h c (List.mem_cons_of_mem _ hc)

/-- A text without quotation marks may hold anything else if it stands between them. -/
lemma isSealed_append_mark (h : '"' ∉ t) : isSealed true (t ++ ['"']) = true := by
  induction t with
  | nil => rfl
  | cons c t ih =>
    have hmark : c ≠ '"' := fun hc => h (hc ▸ List.mem_cons_self)
    refine isSealed_cons.mpr ⟨nofun, ?_⟩
    rw [turn, if_neg hmark]
    exact ih fun ht => h (List.mem_cons_of_mem c ht)

/-- A mark that is replaced by a text without it is gone. -/
lemma notMem_substitute {mark : Char} {replacement : Text} (h : mark ∉ replacement) (t : Text) :
    mark ∉ substitute mark replacement t := by
  rw [substitute, List.mem_flatMap]
  rintro ⟨x, hx, hc⟩
  split at hc
  · exact h hc
  · next hx => exact hx (List.mem_singleton.mp hc).symm

/-- The text holds a line break. -/
def isBroken (t : Text) : Bool :=
  t.any fun c => c == '\r' || c == '\n'

/-- A text is broken by its first character, or by those that follow. -/
lemma isBroken_cons (c : Char) (t : Text) : isBroken (c :: t) = ((c == '\r' || c == '\n') || isBroken t) := rfl

/-- Texts in a row are broken if one of them is. -/
lemma isBroken_append (s t : Text) : isBroken (s ++ t) = (isBroken s || isBroken t) :=
  List.any_append

/-- Texts of the items of a list in a row are broken if the text of one item is. -/
lemma isBroken_flatMap {α : Type} (l : List α) (f : α → Text) :
    isBroken (l.flatMap f) = l.any fun a => isBroken (f a) :=
  List.any_flatMap

end Text

/-! ## Fields -/

namespace Outcome

open Text (isSealed unquotedPieces)

variable {o : Outcome}

/-- The fields of an outcome as they are written, the first one after the verdict. -/
def fields (o : Outcome) : List Text :=
  (o.traceFields.map fun (name, value) => ' ' :: name ++ '=' :: value).modifyHead (o.verdict.word ++ ·)

/-- What is enclosed by quotation marks is sealed, whatever it holds. -/
lemma isSealed_enclosed {mark : Text} (h : '"' ∉ mark) (value : Text) : isSealed false (enclosed mark value) = true :=
  Text.isSealed_cons.mpr ⟨nofun, Text.isSealed_append_mark (Text.notMem_substitute h value)⟩

/-- A printed address is of letters and digits, dots and colons. -/
lemma plain_of_mem_client {client : Address} {c : Char} (hc : c ∈ client.text) :
    c.isAlphanum ∨ c = '.' ∨ c = ':' := by
  cases client with
  | v4 a => exact (V4.of_mem_text hc).imp_right .inl
  | v6 a => exact V6.of_mem_text hc

/-- What a field tells is sealed if its value is. -/
lemma isSealed_field {name : Text} (hname : isSealed false name = true) (value : Text) :
    isSealed false (' ' :: name ++ '=' :: value) = isSealed false value := by
  have hfront : isSealed false (' ' :: name ++ ['=']) = true :=
    Text.isSealed_cons.mpr ⟨by decide, (Text.isSealed_append hname ['=']).trans rfl⟩
  have hsplit : ' ' :: name ++ '=' :: value = (' ' :: name ++ ['=']) ++ value := by simp
  rw [hsplit, Text.isSealed_append hfront]

/-- A printed address is sealed. -/
lemma isSealed_text (client : Address) : isSealed false client.text = true := by
  refine Text.isSealed_of_plain fun c hc => ⟨?_, ?_⟩
  · rintro rfl
    exact absurd (plain_of_mem_client hc) (by decide)
  · rintro rfl
    exact absurd (plain_of_mem_client hc) (by decide)

/-- All fields are sealed but for that of the HELO identity, which is what that is. -/
lemma forall_isSealed_iff :
    (∀ f ∈ o.traceFields, isSealed false (' ' :: f.1 ++ '=' :: f.2) = true) ↔
      ∀ helo ∈ o.helo, isSealed false helo = true := by
  have hclient (client : Address) : isSealed false (' ' :: "client-ip".toList ++ '=' :: client.text) = true :=
    (isSealed_field (by decide) _).trans (isSealed_text client)
  have henvelope : isSealed false (' ' :: "envelope-from".toList ++ '=' :: enclosed [] o.sender) = true :=
    (isSealed_field (by decide) _).trans (isSealed_enclosed List.not_mem_nil o.sender)
  have hproblem (failure : Failure) :
      isSealed false (' ' :: "problem".toList ++ '=' :: enclosed "'".toList failure.message) = true :=
    (isSealed_field (by decide) _).trans (isSealed_enclosed (by decide) failure.message)
  have hhelo (helo : Text) : isSealed false (' ' :: "helo".toList ++ '=' :: helo) = isSealed false helo :=
    isSealed_field (by decide) helo
  rw [traceFields]
  refine ⟨fun h helo hmem => ?_, fun h f hf => ?_⟩
  · rw [← hhelo]
    refine h ("helo".toList, helo) ?_
    rw [hmem]
    simp
  · simp only [List.mem_append, List.mem_cons, Option.mem_toList, Option.map_eq_some_iff] at hf
    rcases hf with (⟨client, -, rfl⟩ | rfl | ⟨helo, hmem, rfl⟩) | ⟨failure, -, rfl⟩
    · exact hclient client
    · exact henvelope
    · exact (hhelo helo).trans (h helo hmem)
    · exact hproblem failure

/-! ## Line breaks -/

/-- The word of a verdict is on one line. -/
lemma isBroken_word (v : Verdict) : Text.isBroken v.word = false := by
  cases v <;> decide

/-- A printed address is on one line. -/
lemma isBroken_text (client : Address) : Text.isBroken client.text = false := by
  refine List.any_eq_false.mpr fun c hc hbreak => ?_
  rw [Bool.or_eq_true, beq_iff_eq, beq_iff_eq] at hbreak
  rcases hbreak with rfl | rfl
  · exact absurd (plain_of_mem_client hc) (by decide)
  · exact absurd (plain_of_mem_client hc) (by decide)

/-- Enclosing a value keeps its line breaks, and adds none. -/
lemma isBroken_enclosed {mark : Text} (hmark : Text.isBroken mark = false) (value : Text) :
    Text.isBroken (enclosed mark value) = Text.isBroken value := by
  have hsubstitute : Text.isBroken (Text.substitute '"' mark value) = Text.isBroken value := by
    rw [Text.substitute, Text.isBroken_flatMap]
    refine congrArg (List.any value) (funext fun c => ?_)
    split
    · next hc => rw [hc, hmark]; rfl
    · exact Bool.or_false _
  rw [enclosed, Text.isBroken_append, Text.isBroken_cons, hsubstitute]
  simp [Text.isBroken]

/-- What a line break is looked for in is the value of a field. -/
lemma isBroken_flatMap_fields {l : List (Text × Text)} (hnames : ∀ f ∈ l, Text.isBroken f.1 = false) :
    Text.isBroken (l.flatMap fun (name, value) => ' ' :: name ++ '=' :: value ++ [';']) =
      l.any fun f => Text.isBroken f.2 := by
  induction l with
  | nil => rfl
  | cons f l ih =>
    obtain ⟨hname, hnames⟩ := List.forall_mem_cons.mp hnames
    rw [List.flatMap_cons, Text.isBroken_append, ih hnames, List.any_cons]
    simp [Text.isBroken_append, Text.isBroken_cons, hname, show Text.isBroken [] = false from rfl]

/-- A line break of a trace field comes from the sender, the HELO identity or the failure. -/
lemma isBroken_trace_iff :
    Text.isBroken o.trace = true ↔ Text.isBroken o.sender = true ∨ (∃ helo ∈ o.helo, Text.isBroken helo = true) ∨
      ∃ failure ∈ o.failure, Text.isBroken failure.message = true := by
  have hnames : ∀ f ∈ o.traceFields, Text.isBroken f.1 = false := by
    intro f hf
    simp only [traceFields, List.mem_append, List.mem_cons, Option.mem_toList, Option.map_eq_some_iff] at hf
    rcases hf with (⟨_, -, rfl⟩ | rfl | ⟨_, -, rfl⟩) | ⟨_, -, rfl⟩
    all_goals rfl
  have henvelope := isBroken_enclosed (show Text.isBroken [] = false from rfl) o.sender
  have hproblem (failure : Failure) :=
    isBroken_enclosed (show Text.isBroken "'".toList = false from rfl) failure.message
  rw [trace, Text.isBroken_append, isBroken_word, Bool.false_or, isBroken_flatMap_fields hnames, List.any_eq_true]
  simp only [traceFields, List.mem_append, List.mem_cons, Option.mem_toList, Option.map_eq_some_iff]
  refine ⟨?_, ?_⟩
  · rintro ⟨f, (⟨client, -, rfl⟩ | rfl | ⟨helo, hmem, rfl⟩) | ⟨failure, hmem, rfl⟩, hbroken⟩
    · rw [isBroken_text] at hbroken
      cases hbroken
    · exact .inl (henvelope ▸ hbroken)
    · exact .inr (.inl ⟨helo, hmem, hbroken⟩)
    · exact .inr (.inr ⟨failure, hmem, hproblem failure ▸ hbroken⟩)
  · rintro (hsender | ⟨helo, hmem, hhelo⟩ | ⟨failure, hmem, hfailure⟩)
    · exact ⟨_, .inl (.inr (.inl rfl)), henvelope.trans hsender⟩
    · exact ⟨_, .inl (.inr (.inr ⟨helo, hmem, rfl⟩)), hhelo⟩
    · exact ⟨_, .inr ⟨failure, hmem, rfl⟩, (hproblem failure).trans hfailure⟩

/-! ## The trace field -/

/-- What was put before the first of several texts can be taken away again. -/
lemma modifyHead_append_injective {s : Text} {us vs : List Text}
    (h : us.modifyHead (s ++ ·) = vs.modifyHead (s ++ ·)) : us = vs := by
  cases us with
  | nil =>
    cases vs with
    | nil => rfl
    | cons v vs => cases h
  | cons u us =>
    cases vs with
    | nil => cases h
    | cons v vs =>
      obtain ⟨hhead, rfl⟩ := List.cons.inj h
      rw [List.append_cancel_left hhead]

/-- The pieces of a trace field are the fields of the outcome, each after the other, and nothing behind them, if and
only if the HELO identity of the outcome is sealed. Neither the sender nor the address nor the failure can add or hide a
field. And a line break stands in the trace field if and only if one stands in the sender, in the HELO identity or in
the failure. -/
theorem trace_pieces_iff (o : Outcome) :
    (unquotedPieces false o.trace = o.fields ++ [[]] ↔ ∀ helo ∈ o.helo, isSealed false helo = true) ∧
      (Text.isBroken o.trace = true ↔ Text.isBroken o.sender = true ∨ (∃ helo ∈ o.helo, Text.isBroken helo = true) ∨
        ∃ failure ∈ o.failure, Text.isBroken failure.message = true) := by
  refine ⟨?_, isBroken_trace_iff⟩
  have hword : isSealed false o.verdict.word = true := by cases o.verdict <;> decide
  let parts := o.traceFields.map fun (name, value) => ' ' :: name ++ '=' :: value
  have htrace : o.trace = o.verdict.word ++ parts.flatMap (· ++ [';']) := by
    rw [trace, List.flatMap_map]
  have hfields : o.fields ++ [[]] = (parts ++ [[]]).modifyHead (o.verdict.word ++ ·) := by
    have hne : parts ≠ [] := by simp [parts, traceFields]
    obtain ⟨part, rest, hparts⟩ := List.exists_cons_of_ne_nil hne
    show parts.modifyHead (o.verdict.word ++ ·) ++ [[]] = _
    rw [hparts]
    rfl
  have hsealed : (∀ part ∈ parts, isSealed false part = true) ↔ ∀ helo ∈ o.helo, isSealed false helo = true := by
    rw [List.forall_mem_map]
    exact forall_isSealed_iff
  rw [htrace, hfields, Text.unquotedPieces_append hword, ← hsealed, ← Text.unquotedPieces_flatMap_iff]
  exact ⟨modifyHead_append_injective, fun h => congrArg _ h⟩

/-- A domain that lets one network send for it. -/
def letsNetworkSend : (q : Query) → Answer q
  | .txt _ => .ok ["v=spf1 ip4:192.0.2.0/24 -all".toList]
  | _ => .error .noSuchDomain

/-- A HELO identity with a semicolon shows a problem where there is none, and a sender may bring a line break of its
own. -/
theorem trace_pieces_forged :
    let E : Engine Unit := ⟨.fixed letsNetworkSend, {}, 0⟩
    let client : Address := .v4 ⟨0xC0000201⟩
    let helo : Text := "mx.example.org; problem=none".toList
    let forging := (E.answer () (.address "user@example.com".toList client (some helo))).1
    let breaking := (E.answer () (.address "us\r\ner@example.com".toList client none)).1
    forging.failure = none ∧ forging.fields.length = 3 ∧
      unquotedPieces false forging.trace = ["pass client-ip=192.0.2.1".toList,
        " envelope-from=\"user@example.com\"".toList, " helo=mx.example.org".toList, " problem=none".toList, []] ∧
      unquotedPieces false forging.trace ≠ forging.fields ++ [[]] ∧ Text.isBroken breaking.trace = true := by
  intro E client helo forging breaking
  have hpieces : unquotedPieces false forging.trace = ["pass client-ip=192.0.2.1".toList,
      " envelope-from=\"user@example.com\"".toList, " helo=mx.example.org".toList, " problem=none".toList, []] := by
    decide +kernel
  have hfields : forging.fields.length = 3 := by decide +kernel
  refine ⟨by decide +kernel, hfields, hpieces, fun h => ?_, by decide +kernel⟩
  have hlength := congrArg List.length h
  rw [hpieces, List.length_append, hfields] at hlength
  cases hlength

end Outcome

end SenderPolicy
