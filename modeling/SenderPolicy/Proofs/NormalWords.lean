import SenderPolicy.Proofs.WrittenTerms

/-!
# The normal form of a policy

Nothing of a policy is lost when it is read: its text is told by the words that it was read from (`map_text_of_parse`). A
plus sign is left out, and the name of a mechanism, a redirection or an explanation is put into small letters. What
follows the name is kept, but for networks, of which there are many spellings; these are printed. Two texts are
therefore read as the same policy exactly if the normal forms of their words are the same.
-/

namespace SenderPolicy

/-- The address and the length of a network as they are printed; any other text is kept. -/
def Network.normalText (normalAddress : Text → Option Text) : Text → Text
  | ':' :: value =>
    match Text.cutFirst '/' value with
    | none => ':' :: (normalAddress value).getD value
    | some (address, digits) =>
      ':' :: (normalAddress address).getD address ++ '/' :: (Text.signedNumeral? digits).elim digits Text.ofNat
  | rest => rest

namespace Policy

/-- What follows the small name of a mechanism or modifier, with networks as they are printed. -/
def normalRest (name rest : Text) : Text :=
  if name = "ip4".toList then Network.normalText (fun t => (V4.ofText? t).map V4.text) rest
  else if name = "ip6".toList then Network.normalText (fun t => (V6.ofText? t).map V6.text) rest
  else rest

/-- The name of a modifier that redirects or explains, in letters of any case. -/
def isKnownName (name : Text) : Bool :=
  Text.sameLetters name "redirect".toList || Text.sameLetters name "exp".toList

/-- The part before the first colon, slash or equals sign is put into small letters, unless it is the name of a modifier
that neither redirects nor explains. -/
def normalBody (body : Text) : Text :=
  let (name, rest) := Text.cut endsName body
  if rest.head? = some '=' ∧ isKnownName name = false then body
  else Text.lower name ++ normalRest (Text.lower name) rest

/-- The normal form of a word: a plus sign before it is left out, any other sign is kept. -/
def normalForm : Text → Text
  | '+' :: body => normalBody body
  | '-' :: body => '-' :: normalBody body
  | '~' :: body => '~' :: normalBody body
  | '?' :: body => '?' :: normalBody body
  | body => normalBody body

/-- The normal forms of the words after the version. -/
def normalWords (t : Text) : List Text :=
  (Text.words Text.isAsciiBlank t).tail.map normalForm

variable {name rest word value : Text} {t u : Text} {most n : Nat}

/-! ## Networks -/

/-- The digits of a length denote it, also with a sign before them. -/
lemma signedNumeral?_of_isLength {digits : Text} (h : Network.IsLength n digits) :
    Text.signedNumeral? digits = some n := by
  rcases h with rfl | ⟨zeros, rfl⟩
  · exact Text.signedNumeral?_ofNat n
  · rw [Text.signedNumeral?]
    exact Text.numeral?_eq_some_iff.mpr ⟨zeros, rfl⟩

/-- The normal text of a network that is written is the text that is printed for it. -/
lemma normalText_of_isWritten {α : Type} {ofText? : Text → Option α} {network : α} {length : Option Nat}
    (print : α → Text) (h : Network.IsWritten ofText? most network length rest) :
    Network.normalText (fun t => (ofText? t).map print) rest =
      ':' :: print network ++ Lengths.part "/".toList length := by
  obtain ⟨address, haddress, hslash, hlength⟩ := h
  cases length with
  | none =>
    rw [hlength, Network.normalText, Text.cutFirst_eq_none hslash, Lengths.part, List.append_nil]
    simp only [haddress, Option.map_some, Option.getD_some]
  | some n =>
    obtain ⟨-, digits, hdigits, rfl⟩ := hlength
    rw [List.cons_append, Network.normalText, Text.cutFirst_append hslash]
    simp only [haddress, Option.map_some, Option.getD_some, signedNumeral?_of_isLength hdigits, Option.elim_some]
    rfl

/-! ## Words -/

/-- A word that starts with a letter has no sign, so it is normalised as a whole. -/
lemma normalForm_of_isAlpha {c : Char} (hc : c.isAlpha) (body : Text) :
    normalForm (c :: body) = normalBody (c :: body) := by
  rw [normalForm.eq_def]
  split
  all_goals first
    | rfl
    | next h =>
      obtain ⟨rfl, -⟩ := List.cons.inj h
      exact absurd hc (by decide)

/-- The normal rest of what a mechanism is written as is its argument. -/
lemma normalRest_of_isWritten {m : Mechanism} (h : m.IsWritten rest) : normalRest m.kind.word rest = m.argument := by
  cases m with
  | all => exact h
  | includes target => exact h.2
  | existing target => exact h.2
  | a target l => exact h.2.2
  | mx target l => exact h.2.2
  | ptr target => exact h.2
  | ip4 network length => exact normalText_of_isWritten V4.text h
  | ip6 network length => exact normalText_of_isWritten V6.text h

/-- The normal form of a mechanism that is written is the text that is printed for it. -/
lemma normalBody_of_isWritten {m : Mechanism} (hname : Text.lower name = m.kind.word) (h : m.IsWritten rest) :
    normalBody (name ++ rest) = m.text := by
  have hequals : ¬ (rest.head? = some '=' ∧ isKnownName name = false) := by
    rintro ⟨hhead, -⟩
    exact absurd (of_mem_head?_isWritten h hhead) (by decide)
  rw [normalBody, cut_name hname (endsName_of_isWritten h)]
  simp only [if_neg hequals]
  rw [hname, normalRest_of_isWritten h, Mechanism.text]

/-- The normal form of a directive that is written is the text that is printed for it. -/
lemma normalForm_of_isWritten {d : Directive} (h : d.IsWritten word) : normalForm word = d.text := by
  obtain ⟨q, m⟩ := d
  obtain ⟨sign, name, rest, rfl, hsign, hname, hwritten⟩ := h
  have hbody : normalBody (name ++ rest) = m.text := normalBody_of_isWritten hname hwritten
  rw [Directive.text, ← hbody]
  rcases hsign with rfl | ⟨hpass, rfl⟩
  · cases q <;> rfl
  · obtain ⟨c, t, rfl, hc⟩ := exists_eq_cons_of_lower_eq_word hname
    rw [if_pos hpass]
    exact normalForm_of_isAlpha hc _

/-! ### Modifiers -/

/-- A modifier keeps its value, and its name in small letters if it redirects or explains, or else as it is. -/
lemma of_readModifier {m : Modifier} (h : readModifier name value = .ok m) :
    isModifierName name = true ∧ m.value = value ∧
      m.name = if isKnownName name = true then Text.lower name else name := by
  simp only [readModifier] at h
  split at h
  · cases h
  · next hname =>
    rw [Bool.not_eq_true', Bool.not_eq_false] at hname
    refine ⟨hname, ?_⟩
    split at h
    · next hsame =>
      obtain ⟨⟨⟩, -, h⟩ := exists_of_bind_eq_ok h
      obtain rfl := Except.ok.inj h
      rw [if_pos (by rw [isKnownName, hsame, Bool.true_or])]
      exact ⟨rfl, (eq_of_beq hsame).symm⟩
    · next hredirect =>
      split at h
      · next hsame =>
        obtain ⟨⟨⟩, -, h⟩ := exists_of_bind_eq_ok h
        obtain rfl := Except.ok.inj h
        rw [if_pos (by rw [isKnownName, hsame, Bool.or_true])]
        exact ⟨rfl, (eq_of_beq hsame).symm⟩
      · next hexplanation =>
        split at h
        · obtain rfl := Except.ok.inj h
          have hunknown : ¬ isKnownName name = true := by
            rw [isKnownName, Bool.or_eq_true]
            exact not_or.mpr ⟨hredirect, hexplanation⟩
          rw [if_neg hunknown]
          exact ⟨rfl, rfl⟩
        · cases h

/-- A word that shows no sign is left as it is. -/
lemma cutQualifier_of_not_isSome (h : ¬ (cutQualifier word).1.isSome = true) : (cutQualifier word).2 = word := by
  rw [cutQualifier.eq_def] at h ⊢
  split
  · rfl
  · next c rest =>
    split
    · next q hq => exact absurd (by simp only [hq, Option.isSome_some]) h
    · rfl

/-- A word that is read as a modifier shows no sign and is cut at an equals sign. -/
lemma exists_of_readTerm_modifier {m : Modifier} (h : readTerm word = .ok (.modifier m)) :
    ∃ name value, Text.cut endsName word = (name, '=' :: value) ∧ readModifier name value = .ok m := by
  simp only [readTerm] at h
  split at h
  · next value hcut =>
    split at h
    · cases h
    · next hsign =>
      obtain ⟨m', hm, h⟩ := exists_of_bind_eq_ok h
      cases h
      rw [cutQualifier_of_not_isSome hsign] at hcut hm
      exact ⟨_, value, congrArg (Prod.mk _) hcut, hm⟩
  · split at h
    · obtain ⟨m', -, h⟩ := exists_of_bind_eq_ok h
      cases h
    · cases h

/-- The normal form of a word is the text of the modifier that it is read as. -/
lemma normalForm_of_readTerm_modifier {m : Modifier} (h : readTerm word = .ok (.modifier m)) :
    normalForm word = m.text := by
  obtain ⟨name, value, hcut, hread⟩ := exists_of_readTerm_modifier h
  obtain ⟨rfl, -⟩ := Text.cut_eq_iff.mp hcut
  obtain ⟨hname, rfl, hkept⟩ := of_readModifier hread
  have hfirst : normalForm (name ++ '=' :: m.value) = normalBody (name ++ '=' :: m.value) := by
    obtain ⟨c, t, rfl, hc⟩ := exists_name_eq_cons hname
    exact normalForm_of_isAlpha hc _
  rw [hfirst, normalBody, hcut, Modifier.text]
  simp only [List.head?_cons, true_and]
  cases hknown : isKnownName name with
  | false =>
    rw [hknown] at hkept
    rw [if_pos rfl, hkept, if_neg Bool.false_ne_true]
  | true =>
    have hrest : normalRest m.name ('=' :: m.value) = '=' :: m.value := by
      rw [normalRest]
      split
      · rfl
      · split <;> rfl
    rw [hknown, if_pos rfl] at hkept
    rw [if_neg (by decide), ← hkept, hrest]

/-- The text of a term is the normal form of the word from which it is read. -/
theorem normalForm_of_readTerm {t : Term} (h : readTerm word = .ok t) : normalForm word = t.text := by
  cases t with
  | directive d => exact normalForm_of_isWritten (isWritten_of_readTerm h)
  | modifier m => exact normalForm_of_readTerm_modifier h

/-! ## Policies -/

/-- Terms that words spell one by one have the normal forms of these for their texts. -/
lemma map_text_of_forall₂ {words : List Text} {ts : List Term}
    (h : List.Forall₂ (fun word t => readTerm word = .ok t) words ts) : ts.map Term.text = words.map normalForm := by
  induction h with
  | nil => rfl
  | cons ht _ ih => rw [List.map_cons, List.map_cons, ih, normalForm_of_readTerm ht]

/-- The texts of the terms of a policy are the normal forms of the words that it is read from. -/
theorem map_text_of_parse {p : Policy} (h : parse t = .ok p) : p.terms.map Term.text = normalWords t := by
  rw [parse] at h
  split at h
  · next first words hwords =>
    split at h
    · obtain ⟨ts, hts, rfl⟩ := exists_of_map_eq_ok h
      rw [normalWords, hwords]
      exact map_text_of_forall₂ (forall₂_of_readTerms hts).1
    · cases h
  · cases h

/-- A policy is printed as its version and the normal forms of the words that it was read from, and two texts are read
as the same policy exactly if the normal forms of their words are the same. -/
theorem text_and_eq_iff_of_parse {p q : Policy} (hp : parse t = .ok p) (hq : parse u = .ok q) :
    p.text = version ++ (normalWords t).flatMap (' ' :: ·) ∧ (p = q ↔ normalWords t = normalWords u) := by
  have htext : p.text = version ++ (normalWords t).flatMap (' ' :: ·) := by
    rw [Policy.text, ← map_text_of_parse hp, List.flatMap_map]
  refine ⟨htext, ?_, fun hwords => ?_⟩
  · rintro rfl
    exact (map_text_of_parse hp).symm.trans (map_text_of_parse hq)
  · have hsame : p.text = q.text := by
      rw [htext, hwords, ← map_text_of_parse hq, List.flatMap_map, Policy.text]
    have hagain := parse_text (wellFormed_of_parse hp)
    rw [hsame, parse_text (wellFormed_of_parse hq)] at hagain
    exact (Except.ok.inj hagain).symm

/-- Two spellings of a policy, with a sign before a length that is left out when it is printed. -/
theorem text_and_eq_iff_of_parse_spellings :
    let t := "v=spf1 +A:Ex.org/24 -IP6:0::1/+064 X.y=Z EXP=%\x7bI\x7d.Ex.org".toList
    let u := "V=SPF1\ta:Ex.org/24 -ip6:::1/64  X.y=Z exp=%\x7bI\x7d.Ex.org\n".toList
    ∃ p, parse t = .ok p ∧ parse u = .ok p ∧ p.text = version ++ (normalWords t).flatMap (' ' :: ·) ∧
      normalWords t = normalWords u := by
  intro t u
  let p : Policy :=
    ⟨[.directive ⟨.pass, .a (some "Ex.org".toList) ⟨some 24, none⟩⟩, .directive ⟨.fail, .ip6 ⟨1⟩ (some 64)⟩,
      .modifier (.unknown "X.y".toList "Z".toList), .modifier (.explanation "%\x7bI\x7d.Ex.org".toList)]⟩
  have hp : parse t = .ok p := by decide +kernel
  have hq : parse u = .ok p := by decide +kernel
  obtain ⟨htext, hiff⟩ := text_and_eq_iff_of_parse hp hq
  exact ⟨p, hp, hq, htext, hiff.mp rfl⟩

end Policy

end SenderPolicy
