import SenderPolicy.Proofs.AddressText
import SenderPolicy.Proofs.Reading
import SenderPolicy.Proofs.Targets

/-!
# Reading a printed policy

The text of a well-formed policy is read as that policy. Each reader is met with what the printer put in its place: a
target after a colon, lengths after slashes, an address, a name and a value. None of these holds a character at which
the text around it is cut.
-/

namespace SenderPolicy

/-- Two readers in a row succeed if the first does, and the second with what the first has read. -/
lemma bind_eq_ok {ε α β : Type} {x : Except ε α} {f : α → Except ε β} {a : α} {b : β} (hx : x = .ok a)
    (h : f a = .ok b) : x >>= f = .ok b := by
  rw [hx]
  exact h

namespace Policy

variable {kind : MechanismKind} {owner : Text} {n most : Nat}

/-! ## Lengths -/

/-- A printed length is read back if it is within the bound. -/
lemma readLength_ofNat (h : n ≤ most) : readLength most (Text.ofNat n) = .ok n := by
  have hzero : ¬ (1 < (Text.ofNat n).length ∧ (Text.ofNat n).head? = some '0') := by
    rintro ⟨hlength, hhead⟩
    have := Text.length_ofNat_le hhead
    omega
  rw [readLength, if_neg hzero, Text.boundedNumeral?_ofNat h]

/-- A printed length that may be missing is read back, or is missing again. -/
lemma mapM_readLength_ofNat {length : Option Nat} (h : ∀ n ∈ length, n ≤ most) :
    (length.map Text.ofNat).mapM (readLength most) = .ok length := by
  cases length with
  | none => rfl
  | some n => exact bind_eq_ok (readLength_ofNat (h n rfl)) rfl

/-- Printed lengths are read, and the text before them is left. -/
lemma readLengths_text {head : Text} {l : Lengths} (hhead : Closed head) (hl : l.WellFormed) :
    readLengths (head ++ l.text) = .ok (head, l) := by
  rw [readLengths, cutLengths_text hhead]
  refine bind_eq_ok (mapM_readLength_ofNat hl.v4_le) ?_
  exact bind_eq_ok (mapM_readLength_ofNat hl.v6_le) rfl

/-! ## Targets -/

/-- A printed target does not end in what could be a length. -/
lemma closed_targetText {target : Option Text} (h : ∀ t ∈ target, checkTarget owner t = .ok ()) :
    Closed (Mechanism.targetText target) := by
  cases target with
  | none =>
    rw [Mechanism.targetText, Closed]
    decide
  | some t => exact ((hasEnd_of_checkTarget (h t rfl)).append [':']).closed

/-- A printed target that may be missing is read back, or is missing again. -/
lemma optionalTarget_targetText {target : Option Text} (h : ∀ t ∈ target, checkTarget kind.word t = .ok ()) :
    optionalTarget kind (Mechanism.targetText target) = .ok target := by
  cases target with
  | none => rfl
  | some t =>
    rw [Mechanism.targetText, optionalTarget, h t rfl]
    rfl

/-- A printed target is read back where one is needed. -/
lemma requiredTarget_targetText {t : Text} (h : checkTarget kind.word t = .ok ()) :
    requiredTarget kind (Mechanism.targetText (some t)) = .ok t := by
  have hread : optionalTarget kind (Mechanism.targetText (some t)) = .ok (some t) :=
    optionalTarget_targetText fun _ ht => Option.some.inj ht ▸ h
  exact bind_eq_ok hread rfl

/-! ## Networks -/

/-- A printed network is read back: its address has no slash, so the length stands behind the first. -/
lemma readNetwork_text {α : Type} {ofText? : Text → Option α} {invalid : Text → PolicyError} {network : α}
    {t : Text} {length : Option Nat} (hread : ofText? t = some network) (ht : '/' ∉ t)
    (hlength : ∀ n ∈ length, n ≤ most) :
    readNetwork ofText? most invalid (':' :: t ++ Lengths.part "/".toList length) = .ok (network, length) := by
  cases length with
  | none =>
    rw [Lengths.part, List.append_nil, readNetwork, Text.cutFirst_eq_none ht]
    simp only [hread]
    rfl
  | some n =>
    have hcut : Text.cutFirst '/' (t ++ '/' :: Text.ofNat n) = some (t, Text.ofNat n) := Text.cutFirst_append ht
    have hmapM := mapM_readLength_ofNat hlength
    change readNetwork ofText? most invalid (':' :: (t ++ '/' :: Text.ofNat n)) = _
    rw [readNetwork, hcut]
    simp only [hread]
    exact bind_eq_ok hmapM rfl

/-- A printed IPv4 address has no slash. -/
lemma slash_notMem_v4 (a : V4) : '/' ∉ a.text :=
  fun h => absurd (V4.of_mem_text h) (by decide)

/-- A printed IPv6 address has no slash. -/
lemma slash_notMem_v6 (a : V6) : '/' ∉ a.text :=
  fun h => absurd (V6.of_mem_text h) (by decide)

/-! ## Terms -/

/-- A printed target and printed lengths are read by a mechanism that looks addresses up. -/
lemma readLookup_text {target : Option Text} {l : Lengths} (make : Option Text → Lengths → Mechanism)
    (htarget : ∀ t ∈ target, checkTarget kind.word t = .ok ()) (hl : l.WellFormed) :
    (readLengths (Mechanism.targetText target ++ l.text) >>= fun (head, l) =>
      optionalTarget kind head >>= fun target => pure (make target l)) = .ok (make target l) := by
  refine bind_eq_ok (readLengths_text (closed_targetText htarget) hl) ?_
  exact bind_eq_ok (optionalTarget_targetText htarget) rfl

/-- What is printed after the name of a mechanism is read as that mechanism. -/
theorem readMechanism_argument {m : Mechanism} (h : m.WellFormed) : readMechanism m.kind m.argument = .ok m := by
  cases m with
  | all => rfl
  | includes target => exact congrArg (Except.map Mechanism.includes) (requiredTarget_targetText h.checked)
  | existing target => exact congrArg (Except.map Mechanism.existing) (requiredTarget_targetText h.checked)
  | a target l => exact readLookup_text .a (fun t ht => (h.1 t ht).checked) h.2
  | mx target l => exact readLookup_text .mx (fun t ht => (h.1 t ht).checked) h.2
  | ptr target =>
    exact congrArg (Except.map Mechanism.ptr) (optionalTarget_targetText fun t ht => (h t ht).checked)
  | ip4 network length =>
    exact bind_eq_ok (readNetwork_text (V4.ofText?_text network) (slash_notMem_v4 network) h) rfl
  | ip6 network length =>
    exact bind_eq_ok (readNetwork_text (V6.ofText?_text network) (slash_notMem_v6 network) h) rfl

/-- The name of a modifier is one that a modifier may have. -/
lemma isModifierName_name {m : Modifier} (h : m.WellFormed) : isModifierName m.name = true := by
  cases m with
  | redirect target =>
    show isModifierName "redirect".toList = true
    decide
  | explanation target =>
    show isModifierName "exp".toList = true
    decide
  | unknown name value =>
    have hunknown : IsUnknown name value := h
    exact hunknown.isName

/-- The name and the value that are printed for a modifier are read as that modifier. -/
theorem readModifier_name_value {m : Modifier} (h : m.WellFormed) : readModifier m.name m.value = .ok m := by
  have hname := isModifierName_name h
  cases m with
  | redirect target =>
    have hcheck : checkTarget "redirect".toList target = .ok () := h.checked
    have hsame : Text.sameLetters "redirect".toList "redirect".toList = true := by decide
    change isModifierName "redirect".toList = true at hname
    show readModifier "redirect".toList target = _
    simp only [readModifier, hname, hsame, hcheck]
    rfl
  | explanation target =>
    have hcheck : checkTarget "exp".toList target = .ok () := h.checked
    have hdiff : Text.sameLetters "exp".toList "redirect".toList = false := by decide
    have hsame : Text.sameLetters "exp".toList "exp".toList = true := by decide
    change isModifierName "exp".toList = true at hname
    show readModifier "exp".toList target = _
    simp only [readModifier, hname, hdiff, hsame, hcheck]
    rfl
  | unknown name value =>
    -- both comparisons with the known names fail, in letters of any case
    have hunknown : IsUnknown name value := h
    show readModifier name value = _
    simp only [readModifier, hunknown.isName, hunknown.ne_redirect, hunknown.ne_explanation, hunknown.checked]
    rfl

/-! ### Cuts of a printed term -/

/-- A sign at the front is cut off as the qualifier that it stands for. -/
lemma cutQualifier_sign (q : Qualifier) (t : Text) : cutQualifier (q.sign :: t) = (some q, t) := by
  rw [cutQualifier, Qualifier.ofSign?_sign]

/-- A letter at the front is no sign. -/
lemma cutQualifier_of_isAlpha {c : Char} (hc : c.isAlpha) (t : Text) : cutQualifier (c :: t) = (none, c :: t) := by
  have hnone : Qualifier.ofSign? c = none := by
    rw [Qualifier.ofSign?, List.find?_eq_none]
    rintro q - hq
    rw [beq_iff_eq] at hq
    subst hq
    cases q <;> exact absurd hc (by decide)
  rw [cutQualifier, hnone]

/-- The word for a mechanism starts with a letter. -/
lemma exists_word_eq_cons (k : MechanismKind) : ∃ c t, k.word = c :: t ∧ c.isAlpha := by
  cases k <;> exact ⟨_, _, rfl, by decide⟩

/-- The word for a mechanism has letters and digits only. -/
lemma isAlphanum_of_mem_word {c : Char} (k : MechanismKind) (hc : c ∈ k.word) : c.isAlphanum := by
  have hall : k.word.all Char.isAlphanum := by cases k <;> decide
  exact List.all_eq_true.mp hall c hc

/-- A directive shows its qualifier or none, and the rest is its mechanism. -/
lemma cutQualifier_text (d : Directive) :
    (cutQualifier d.text).1.getD .pass = d.qualifier ∧ (cutQualifier d.text).2 = d.mechanism.text := by
  obtain ⟨q, m⟩ := d
  rw [Directive.text]
  split
  · next hq =>
    obtain rfl : q = .pass := hq
    obtain ⟨c, t, hword, hc⟩ := exists_word_eq_cons m.kind
    rw [Mechanism.text, hword, List.cons_append, cutQualifier_of_isAlpha hc]
    exact ⟨rfl, rfl⟩
  · rw [cutQualifier_sign]
    exact ⟨rfl, rfl⟩

/-- What is printed of a target and lengths starts with a colon or a slash. -/
lemma of_mem_head?_lookup {target : Option Text} {l : Lengths} {c : Char}
    (hc : c ∈ (Mechanism.targetText target ++ l.text).head?) : c = ':' ∨ c = '/' := by
  obtain ⟨v4, v6⟩ := l
  rcases target with _ | t
  · rcases v4 with _ | n
    · rcases v6 with _ | n
      · cases hc
      · exact .inr (Option.some.inj hc).symm
    · exact .inr (Option.some.inj hc).symm
  · exact .inl (Option.some.inj hc).symm

/-- What follows the name of a mechanism starts with a colon or a slash. -/
lemma of_mem_head?_argument {m : Mechanism} {c : Char} (hc : c ∈ m.argument.head?) : c = ':' ∨ c = '/' := by
  cases m with
  | all => cases hc
  | includes target => exact .inl (Option.some.inj hc).symm
  | existing target => exact .inl (Option.some.inj hc).symm
  | a target l => exact of_mem_head?_lookup hc
  | mx target l => exact of_mem_head?_lookup hc
  | ptr target =>
    cases target with
    | none => cases hc
    | some t => exact .inl (Option.some.inj hc).symm
  | ip4 network length => exact .inl (Option.some.inj hc).symm
  | ip6 network length => exact .inl (Option.some.inj hc).symm

/-- No letter or digit ends a name. -/
lemma endsName_of_isAlphanum {c : Char} (hc : c.isAlphanum) : endsName c = false := by
  rw [endsName, Bool.or_eq_false_iff, Bool.or_eq_false_iff, beq_eq_false_iff_ne, beq_eq_false_iff_ne,
    beq_eq_false_iff_ne]
  refine ⟨⟨?_, ?_⟩, ?_⟩ <;>
  · rintro rfl
    exact absurd hc (by decide)

/-- A printed mechanism is cut behind its word. -/
lemma cut_mechanism_text (m : Mechanism) : Text.cut endsName m.text = (m.kind.word, m.argument) := by
  refine Text.cut_append (fun c hc => endsName_of_isAlphanum (isAlphanum_of_mem_word m.kind hc)) fun c hc => ?_
  rcases of_mem_head?_argument hc with rfl | rfl
  · decide
  · decide

/-- The name of a modifier starts with a letter. -/
lemma exists_name_eq_cons {name : Text} (h : isModifierName name = true) : ∃ c t, name = c :: t ∧ c.isAlpha := by
  cases name with
  | nil => cases h
  | cons c t =>
    rw [isModifierName, Bool.and_eq_true] at h
    exact ⟨c, t, rfl, h.1⟩

/-- A property of letters, digits and three marks holds of every character of a name. -/
lemma forall_mem_name {name : Text} {q : Char → Prop} (h : isModifierName name = true)
    (halnum : ∀ c, c.isAlphanum → q c) (hmarks : q '.' ∧ q '_' ∧ q '-') : ∀ c ∈ name, q c := by
  cases name with
  | nil => cases h
  | cons c t =>
    rw [isModifierName, Bool.and_eq_true, List.all_eq_true] at h
    obtain ⟨hc, ht⟩ := h
    obtain ⟨hdot, hline, hhyphen⟩ := hmarks
    rintro d (_ | ⟨_, hd⟩)
    · exact halnum c (by rw [Char.isAlphanum, hc, Bool.true_or])
    · have hmark := ht d hd
      simp only [Bool.or_eq_true, beq_iff_eq] at hmark
      rcases hmark with ((hd | rfl) | rfl) | rfl
      · exact halnum d hd
      · exact hdot
      · exact hline
      · exact hhyphen

/-- A printed modifier is cut at the equals sign behind its name. -/
lemma cut_modifier_text {m : Modifier} (h : m.WellFormed) : Text.cut endsName m.text = (m.name, '=' :: m.value) := by
  refine Text.cut_append (forall_mem_name (isModifierName_name h) (fun _ => endsName_of_isAlphanum) (by decide)) ?_
  rintro _ ⟨⟩
  decide

/-- The text of a term is read as that term. -/
theorem readTerm_text {t : Term} (h : t.WellFormed) : readTerm t.text = .ok t := by
  cases t with
  | directive d =>
    obtain ⟨hqualifier, hbody⟩ := cutQualifier_text d
    have hread := readMechanism_argument (m := d.mechanism) h
    show readTerm d.text = _
    rw [readTerm]
    simp only [hbody, cut_mechanism_text]
    split
    · next value hargument =>
      -- only an equals sign after the name would make a modifier of it
      have hequals : '=' ∈ d.mechanism.argument.head? := by rw [hargument, List.head?_cons, Option.mem_some]
      exact absurd (of_mem_head?_argument hequals) (by decide)
    · simp only [hqualifier, MechanismKind.ofWord?_word, hread]
      rfl
  | modifier m =>
    obtain ⟨c, t, hname, hc⟩ := exists_name_eq_cons (isModifierName_name h)
    have hqualifier : cutQualifier m.text = (none, m.text) := by
      rw [Modifier.text, hname, List.cons_append, cutQualifier_of_isAlpha hc]
    have hread := readModifier_name_value h
    show readTerm m.text = _
    simp only [readTerm, hqualifier, cut_modifier_text h, hread]
    rfl

/-! ## Words -/

section

variable {a b t : Text} {c : Char}

/-- Texts in a row are unbroken if each is. -/
lemma unbroken_append (ha : a.Unbroken) (hb : b.Unbroken) : (a ++ b).Unbroken := by
  intro c hc
  rcases List.mem_append.mp hc with hc | hc
  · exact ha c hc
  · exact hb c hc

/-- A character other than a blank may stand before an unbroken text. -/
lemma unbroken_cons (hc : Text.isAsciiBlank c = false) (ht : t.Unbroken) : Text.Unbroken (c :: t) := by
  rintro d (_ | ⟨_, hd⟩)
  · exact hc
  · exact ht d hd

/-- No letter or digit is a blank. -/
lemma isAsciiBlank_of_isAlphanum (hc : c.isAlphanum) : Text.isAsciiBlank c = false := by
  rw [Bool.eq_false_iff]
  intro hblank
  simp only [Text.isAsciiBlank, Bool.or_eq_true, beq_iff_eq] at hblank
  rcases hblank with (((rfl | rfl) | rfl) | rfl) | rfl <;> exact absurd hc (by decide)

/-- The numeral of a length behind an unbroken mark has no blanks. -/
lemma unbroken_part {mark : Text} (hmark : mark.Unbroken) (length : Option Nat) :
    (Lengths.part mark length).Unbroken := by
  cases length with
  | none => exact nofun
  | some n =>
    refine unbroken_append hmark fun c hc => isAsciiBlank_of_isAlphanum ?_
    rw [Char.isAlphanum, Text.isDigit_of_mem_ofNat hc, Bool.or_true]

/-- Printed lengths have no blanks. -/
lemma unbroken_lengths_text (l : Lengths) : l.text.Unbroken :=
  unbroken_append (unbroken_part (by decide) l.v4) (unbroken_part (by decide) l.v6)

/-- A printed target has no blanks. -/
lemma unbroken_targetText {target : Option Text} (h : ∀ t ∈ target, IsTarget owner t) :
    (Mechanism.targetText target).Unbroken := by
  cases target with
  | none => exact nofun
  | some t => exact unbroken_cons (by decide) (h t rfl).unbroken

/-- A printed IPv4 address has no blanks. -/
lemma unbroken_v4 (a : V4) : a.text.Unbroken := by
  intro c hc
  rcases V4.of_mem_text hc with hc | rfl
  · exact isAsciiBlank_of_isAlphanum hc
  · decide

/-- A printed IPv6 address has no blanks. -/
lemma unbroken_v6 (a : V6) : a.text.Unbroken := by
  intro c hc
  rcases V6.of_mem_text hc with hc | rfl | rfl
  · exact isAsciiBlank_of_isAlphanum hc
  · decide
  · decide

end

/-- What is printed after the word of a mechanism has no blanks. -/
lemma unbroken_argument {m : Mechanism} (h : m.WellFormed) : m.argument.Unbroken := by
  cases m with
  | all => exact nofun
  | includes target => exact unbroken_cons (by decide) h.unbroken
  | existing target => exact unbroken_cons (by decide) h.unbroken
  | a target l => exact unbroken_append (unbroken_targetText h.1) (unbroken_lengths_text l)
  | mx target l => exact unbroken_append (unbroken_targetText h.1) (unbroken_lengths_text l)
  | ptr target => exact unbroken_targetText h
  | ip4 network length =>
    exact unbroken_append (unbroken_cons (by decide) (unbroken_v4 network)) (unbroken_part (by decide) length)
  | ip6 network length =>
    exact unbroken_append (unbroken_cons (by decide) (unbroken_v6 network)) (unbroken_part (by decide) length)

/-- The value of a modifier has no blanks. -/
lemma unbroken_value {m : Modifier} (h : m.WellFormed) : m.value.Unbroken := by
  cases m with
  | redirect target => exact h.unbroken
  | explanation target => exact h.unbroken
  | unknown name value => exact h.unbroken

/-- A printed mechanism is one word. -/
lemma mechanism_text_word {m : Mechanism} (h : m.WellFormed) : m.text ≠ [] ∧ m.text.Unbroken := by
  obtain ⟨c, t, hword, hc⟩ := exists_word_eq_cons m.kind
  have hunbroken : m.kind.word.Unbroken := fun _ hc => isAsciiBlank_of_isAlphanum (isAlphanum_of_mem_word m.kind hc)
  rw [Mechanism.text]
  exact ⟨by rw [hword]; exact List.cons_ne_nil _ _, unbroken_append hunbroken (unbroken_argument h)⟩

/-- The text of a term is one word. -/
lemma term_text_word {t : Term} (h : t.WellFormed) : t.text ≠ [] ∧ t.text.Unbroken := by
  cases t with
  | directive d =>
    have hmechanism := mechanism_text_word (m := d.mechanism) h
    rw [Term.text, Directive.text]
    split
    · exact hmechanism
    · have hsign : Text.isAsciiBlank d.qualifier.sign = false := by cases d.qualifier <;> decide
      exact ⟨List.cons_ne_nil _ _, unbroken_cons hsign hmechanism.2⟩
  | modifier m =>
    have hname : m.name.Unbroken :=
      forall_mem_name (isModifierName_name h) (fun _ => isAsciiBlank_of_isAlphanum) (by decide)
    exact ⟨List.append_ne_nil_of_right_ne_nil _ (List.cons_ne_nil _ _),
      unbroken_append hname (unbroken_cons (by decide) (unbroken_value h))⟩

/-- The words of a printed policy are its version and the texts of its terms. -/
lemma words_text {p : Policy} (h : p.WellFormed) :
    Text.words Text.isAsciiBlank p.text = version :: p.terms.map Term.text := by
  have hflatMap : p.text = version ++ (p.terms.map Term.text).flatMap (' ' :: ·) := by
    rw [Policy.text, List.flatMap_map]
  have hversion : Text.Unbroken version := by decide
  rw [hflatMap]
  refine Text.words_flatMap (by decide) hversion (by decide) fun t ht => ?_
  obtain ⟨u, hu, rfl⟩ := List.mem_map.mp ht
  exact term_text_word (h.terms u hu)

/-- Words that spell a term each are read if the names of unique modifiers are distinct and new. -/
lemma readTerms_of_forall₂ {seen words : List Text} {ts : List Term}
    (h : List.Forall₂ (fun word t => readTerm word = .ok t) words ts) (hnodup : (ts.filterMap uniqueName?).Nodup)
    (hnew : ∀ name ∈ ts.filterMap uniqueName?, name ∉ seen) : readTerms seen words = .ok ts := by
  induction h generalizing seen with
  | nil => rfl
  | @cons word t words ts ht _ ih =>
    rw [readTerms]
    refine bind_eq_ok ht ?_
    split
    · next name hname =>
      rw [List.filterMap_cons_some hname] at hnodup hnew
      obtain ⟨hfresh, hnodup⟩ := List.nodup_cons.mp hnodup
      have hseen : ¬ seen.contains name = true := by simpa using hnew name List.mem_cons_self
      -- no later term has the name, so it may be counted as seen
      have htail : readTerms (name :: seen) words = .ok ts := by
        refine ih hnodup fun n hn hmem => ?_
        rcases List.mem_cons.mp hmem with rfl | hmem
        · exact hfresh hn
        · exact hnew n (List.mem_cons_of_mem name hn) hmem
      rw [if_neg hseen]
      exact bind_eq_ok htail rfl
    · next hname =>
      rw [List.filterMap_cons_none hname] at hnodup hnew
      exact bind_eq_ok (ih hnodup hnew) rfl

/-- A printed policy is read as that policy. -/
theorem parse_text {p : Policy} (h : p.WellFormed) : parse p.text = .ok p := by
  have hterms : List.Forall₂ (fun word t => readTerm word = .ok t) (p.terms.map Term.text) p.terms := by
    rw [List.forall₂_map_left_iff, List.forall₂_same]
    exact fun t ht => readTerm_text (h.terms t ht)
  have hunique := nodup_filterMap_uniqueName?.mpr ⟨h.redirects_le, h.explanations_le⟩
  have hread : readTerms [] (p.terms.map Term.text) = .ok p.terms :=
    readTerms_of_forall₂ hterms hunique fun _ _ => List.not_mem_nil
  have hversion : Text.sameLetters version version = true := by decide
  rw [parse, words_text h]
  simp only [hversion, hread]
  rfl

/-- A policy that is read is well formed, and a well-formed policy is read from its own text. -/
theorem wellFormed_and_parse_text (t : Text) (p : Policy) :
    (parse t = .ok p → p.WellFormed) ∧ (p.WellFormed → parse p.text = .ok p) :=
  ⟨wellFormed_of_parse, parse_text⟩

/-- A policy with targets and values in which colons, slashes and equals signs stand. -/
def mixed : Policy :=
  ⟨[.directive ⟨.pass, .mx (some "%\x7bd1r/-\x7d.ex-1.com.".toList) ⟨none, some 64⟩⟩,
    .directive ⟨.fail, .a none ⟨some 24, some 0⟩⟩,
    .directive ⟨.softFail, .existing "a=b:c.%\x7bir=/\x7d".toList⟩,
    .directive ⟨.neutral, .ip6 ⟨0xffffc0000201⟩ (some 96)⟩,
    .modifier (.unknown "x.Y_1".toList "a/b=c:%\x7bt\x7d".toList),
    .modifier (.redirect "_spf.ex.com".toList)]⟩

/-- The mixed policy is read from a text in capital letters with other blanks, is well formed, and is read again from
its own text. -/
theorem wellFormed_and_parse_text_mixed :
    mixed.WellFormed ∧ parse mixed.text = .ok mixed := by
  have hread : parse ("V=SPF1\t+MX:%\x7bd1r/-\x7d.ex-1.com.//64  -A/24//0 ~EXISTS:a=b:c.%\x7bir=/\x7d " ++
      "?ip6:::FFFF:C000:201/96 x.Y_1=a/b=c:%\x7bt\x7d REDIRECT=_spf.ex.com\n").toList = .ok mixed := by
    decide +kernel
  obtain ⟨hwell, hagain⟩ := wellFormed_and_parse_text _ mixed
  exact ⟨hwell hread, hagain (hwell hread)⟩

end Policy

end SenderPolicy
