import SenderPolicy.Proofs.Faults
import SenderPolicy.Proofs.NoPolicy
import SenderPolicy.Proofs.NormalWords

/-!
# Finding a policy and reading it

A policy is found among texts by its first characters, and is read from its first word on. The two tell the same texts
as policies (`isPolicyText_eq_leadsWithVersion`), although they go by different blanks: what is left of a trimmed text
starts with no blank at all, and only an ASCII blank ends the version.

A policy that was read is found again in its own text, since that is not trimmed: its last term ends as the word does
that it was read from, or in a character of a name or a network (`endsUnblank_term`).
-/

namespace SenderPolicy

namespace Text

variable {a b t w : Text} {c : Char}

/-! ## Blanks at the end -/

/-- A blank of ASCII is a blank. -/
lemma isAsciiBlank_of_isBlank (h : isBlank c = false) : isAsciiBlank c = false := by
  rw [Bool.eq_false_iff]
  intro hblank
  rw [isBlank_of_isAsciiBlank hblank] at h
  cases h

/-- Letters and digits are no blanks. -/
lemma isBlank_of_isAlphanum (hc : c.isAlphanum) : isBlank c = false := by
  have hletters : 0x20 < 'A'.toNat ∧ 'Z'.toNat < 0x85 ∧ 0x20 < 'a'.toNat ∧ 'z'.toNat < 0x85 := by decide
  have hdigits : 0x20 < '0'.toNat ∧ '9'.toNat < 0x85 := by decide
  have hbounds : 0x20 < c.toNat ∧ c.toNat < 0x85 := by
    rw [Char.isAlphanum, Bool.or_eq_true] at hc
    rcases hc with hc | hc
    · have hletter := Policy.toNat_of_isAlpha hc
      omega
    · have hdigit := Char.isDigit_iff_toNat.mp hc
      omega
  simp only [isBlank, Bool.or_eq_false_iff, Bool.and_eq_false_iff, decide_eq_false_iff_not, beq_eq_false_iff_ne]
  omega

/-- The text does not end in a blank. -/
def EndsUnblank (t : Text) : Prop :=
  ∀ c ∈ t.getLast?, isBlank c = false

/-- A text without blanks does not end in one. -/
lemma endsUnblank_of_forall (h : ∀ c ∈ t, isBlank c = false) : EndsUnblank t :=
  fun c hc => h c (List.mem_of_getLast? hc)

/-- Two texts end as the second does, if it is not empty. -/
lemma EndsUnblank.append (a : Text) (hne : b ≠ []) (hb : EndsUnblank b) : EndsUnblank (a ++ b) := by
  rw [EndsUnblank, List.getLast?_append_of_ne_nil _ hne]
  exact hb

/-- The end of a text ends as the text does. -/
lemma EndsUnblank.of_suffix (ht : EndsUnblank t) (hw : w <:+ t) : EndsUnblank w := by
  obtain ⟨a, rfl⟩ := hw
  by_cases hne : w = []
  · rw [hne]
    rintro c ⟨⟩
  · rwa [EndsUnblank, List.getLast?_append_of_ne_nil _ hne] at ht

/-- A trimmed text does not end in a blank. -/
lemma endsUnblank_trim (t : Text) : EndsUnblank (trim t) := by
  intro c hc
  have hne : trim t ≠ [] := by
    intro hnil
    rw [hnil] at hc
    cases hc
  have hlast := List.rdropWhile_last_not isBlank (t.dropWhile isBlank) hne
  rw [List.getLast?_eq_getLast_of_ne_nil hne, Option.mem_some] at hc
  subst hc
  exact Bool.eq_false_iff.mpr hlast

end Text

namespace Policy

variable {t word : Text} {p : Policy}

/-! ## The version -/

/-- The first word of the text, without the blanks around it, is the version. -/
def leadsWithVersion (t : Text) : Bool :=
  (Text.words Text.isAsciiBlank (Text.trim t)).head?.any (Text.sameLetters · version)

/-- A text is refused for its version unless its first word is the version. -/
lemma parse_ne_invalidVersion_iff (t : Text) : parse t ≠ .error .invalidVersion ↔
    (Text.words Text.isAsciiBlank t).head?.any (Text.sameLetters · version) = true := by
  rw [parse]
  split
  · next first words hwords =>
    rw [hwords, List.head?_cons, Option.any_some]
    split
    · next hversion =>
      refine iff_of_true (fun h => ?_) hversion
      have hfaults := (readTerms_faultsTerm [] words).map (f := Policy.mk) _ h
      cases hfaults
    · next hversion => exact iff_of_false (fun h => h rfl) hversion
  · next hwords =>
    rw [hwords]
    exact iff_of_false (fun h => h rfl) Bool.false_ne_true

/-- No spelling of the version holds a blank. -/
lemma isAsciiBlank_of_sameLetters_version (h : Text.sameLetters t version = true) :
    ∀ c ∈ t, Text.isAsciiBlank c = false := by
  intro c hc
  have hblind : Text.CaseBlind Text.isAsciiBlank := .of_capitals (by decide)
  have hversion : Text.Unbroken (Text.lower version) := by decide
  have hmem : c.toLower ∈ Text.lower version := eq_of_beq h ▸ List.mem_map_of_mem hc
  rw [← hblind c]
  exact hversion _ hmem

/-- The version and a blank or nothing are cut off from a text exactly if they are its first characters. -/
lemma sameLetters_cut_version (t : Text) :
    (Text.sameLetters (t.take version.length) version && (t.drop version.length).head?.all Text.isAsciiBlank) =
      Text.sameLetters (Text.cut Text.isAsciiBlank t).1 version := by
  rw [Bool.eq_iff_iff, Bool.and_eq_true]
  constructor
  · rintro ⟨hversion, hblank⟩
    have hcut : Text.cut Text.isAsciiBlank t = (t.take version.length, t.drop version.length) := by
      refine Text.cut_eq_iff.mpr ⟨(List.take_append_drop _ t).symm, isAsciiBlank_of_sameLetters_version hversion, ?_⟩
      exact (Option.all_eq_true _ _).mp hblank
    rwa [hcut]
  · intro hversion
    cases hcut : Text.cut Text.isAsciiBlank t with
    | mk first rest =>
      rw [hcut] at hversion
      obtain ⟨rfl, -, hrest⟩ := Text.cut_eq_iff.mp hcut
      have hlength : first.length = version.length := Text.length_eq_of_lower_eq (eq_of_beq hversion)
      rw [List.take_left' hlength, List.drop_left' hlength]
      exact ⟨hversion, (Option.all_eq_true _ _).mpr hrest⟩

/-- What is found as a policy by its first characters is what starts with the version as its first word. -/
lemma isPolicyText_eq_leadsWithVersion (t : Text) : isPolicyText t = leadsWithVersion t := by
  rw [isPolicyText, leadsWithVersion]
  simp only [sameLetters_cut_version]
  cases htrim : Text.trim t with
  | nil => decide
  | cons c u =>
    have hc : Text.isAsciiBlank c = false := Text.isAsciiBlank_of_isBlank (Text.isBlank_of_trim_eq_cons htrim)
    rw [Text.words_eq_cons_of_head? (List.cons_ne_nil c u) (by rintro _ ⟨⟩; exact hc), List.head?_cons, Option.any_some]

/-! ## The end of a printed policy -/

/-- A printed length holds no blank. -/
lemma isBlank_of_mem_part {length : Option Nat} {c : Char} (hc : c ∈ Lengths.part "/".toList length) :
    Text.isBlank c = false := by
  cases length with
  | none => cases hc
  | some n =>
    rcases List.mem_cons.mp hc with rfl | hc
    · decide
    · refine Text.isBlank_of_isAlphanum ?_
      rw [Char.isAlphanum, Text.isDigit_of_mem_ofNat hc, Bool.or_true]

/-- A printed network holds no blank. -/
lemma endsUnblank_network {t : Text} {length : Option Nat} (ht : ∀ c ∈ t, Text.isBlank c = false) :
    Text.EndsUnblank (':' :: t ++ Lengths.part "/".toList length) := by
  refine Text.endsUnblank_of_forall fun c hc => ?_
  rcases List.mem_append.mp hc with hc | hc
  · rcases List.mem_cons.mp hc with rfl | hc
    · decide
    · exact ht c hc
  · exact isBlank_of_mem_part hc

/-- What is printed for a mechanism ends in no blank if what it was read from does not. -/
lemma endsUnblank_argument {m : Mechanism} {rest : Text} (h : m.IsWritten rest) (hrest : rest.EndsUnblank) :
    m.argument.EndsUnblank := by
  have hsame := normalRest_of_isWritten h
  cases m with
  | ip4 network length =>
    refine endsUnblank_network fun c hc => ?_
    rcases V4.of_mem_text hc with hc | rfl
    · exact Text.isBlank_of_isAlphanum hc
    · decide
  | ip6 network length =>
    refine endsUnblank_network fun c hc => ?_
    rcases V6.of_mem_text hc with hc | rfl | rfl
    · exact Text.isBlank_of_isAlphanum hc
    · decide
    · decide
  | _ => exact hsame ▸ hrest

/-- What is printed for a mechanism ends in no blank, its word included. -/
lemma endsUnblank_mechanism {m : Mechanism} {rest : Text} (h : m.IsWritten rest) (hrest : rest.EndsUnblank) :
    m.text.EndsUnblank := by
  have hargument := endsUnblank_argument h hrest
  rw [Mechanism.text]
  by_cases hne : m.argument = []
  · rw [hne, List.append_nil]
    exact Text.endsUnblank_of_forall fun c hc => Text.isBlank_of_isAlphanum (isAlphanum_of_mem_word m.kind hc)
  · exact hargument.append _ hne

/-- The text of a term ends in no blank if the word that it was read from does not. -/
lemma endsUnblank_term {x : Term} (h : readTerm word = .ok x) (hword : word.EndsUnblank) : x.text.EndsUnblank := by
  cases x with
  | directive d =>
    obtain ⟨sign, name, rest, rfl, -, -, hwritten⟩ := isWritten_of_readTerm h
    have hrest : rest.EndsUnblank := hword.of_suffix ⟨sign ++ name, List.append_assoc _ _ _⟩
    have hmechanism := endsUnblank_mechanism hwritten hrest
    rw [Term.text, Directive.text]
    split
    · exact hmechanism
    · have hne : d.mechanism.text ≠ [] := by
        obtain ⟨c, t, hc, -⟩ := exists_word_eq_cons d.mechanism.kind
        rw [Mechanism.text, hc]
        exact List.cons_ne_nil _ _
      exact hmechanism.append [_] hne
  | modifier m =>
    obtain ⟨name, value, hcut, hread⟩ := exists_of_readTerm_modifier h
    obtain ⟨rfl, -⟩ := Text.cut_eq_iff.mp hcut
    obtain ⟨-, rfl, -⟩ := of_readModifier hread
    have hvalue : Text.EndsUnblank ('=' :: m.value) := hword.of_suffix ⟨name, rfl⟩
    exact hvalue.append m.name (List.cons_ne_nil _ _)

/-- The last term of a policy that was read from a trimmed text ends in no blank. -/
lemma endsUnblank_getLast? {last : Term} (h : parse (Text.trim t) = .ok p)
    (hterm : last ∈ p.terms.getLast?) : last.text.EndsUnblank := by
  rw [parse] at h
  split at h
  · next first words hwords =>
    split at h
    · obtain ⟨ts, hts, rfl⟩ := exists_of_map_eq_ok h
      obtain ⟨front, rfl⟩ := List.getLast?_eq_some_iff.mp hterm
      -- the last term was read from the last word, which ends where the text does
      have hreverse := List.forall₂_reverse_iff.mpr (forall₂_of_readTerms hts).1
      rw [List.reverse_concat] at hreverse
      obtain ⟨word, before, hread, -, hwords'⟩ := List.forall₂_cons_right_iff.mp hreverse
      have hword : word ∈ (Text.words Text.isAsciiBlank (Text.trim t)).getLast? := by
        rw [hwords, List.getLast?_cons, ← List.head?_reverse, hwords']
        rfl
      have hunblank := Text.endsUnblank_trim t
      have hlast : ∀ c ∈ (Text.trim t).getLast?, Text.isAsciiBlank c = false := fun c hc =>
        Text.isAsciiBlank_of_isBlank (hunblank c hc)
      exact endsUnblank_term hread (hunblank.of_suffix (Text.suffix_of_getLast?_words hlast hword))
    · cases h
  · cases h

/-- Trimming does not reach into the text of a policy that was read from a trimmed text. -/
lemma trim_text_of_parse (h : parse (Text.trim t) = .ok p) : Text.trim p.text = p.text := by
  have hwell := wellFormed_of_parse h
  have hlast : ∀ x ∈ p.terms.getLast?, x.text.EndsUnblank := fun _ hx => endsUnblank_getLast? h hx
  refine Text.trim_eq_self (by rintro _ ⟨⟩; decide) ?_
  obtain ⟨ts⟩ := p
  rw [Policy.text]
  rcases List.eq_nil_or_concat ts with rfl | ⟨front, x, rfl⟩
  · rintro _ ⟨⟩
    decide
  · rw [List.concat_eq_append] at hwell hlast ⊢
    have hne := (term_text_word (hwell.terms x (List.mem_append_right _ (List.mem_singleton_self x)))).1
    have hunblank : x.text.EndsUnblank := hlast x List.getLast?_concat
    simp only [List.flatMap_append, List.flatMap_singleton, ← List.append_assoc]
    exact (hunblank.append [' '] hne).append _ (List.cons_ne_nil _ _)

/-! ## Finding among answers -/

/-- Whether a policy is found depends on how many of the texts start with the version. -/
lemma ofAnswers_cases (answers : List Text) :
    (answers.countP leadsWithVersion = 0 ∧ ofAnswers answers = .ok none) ∨
      (answers.countP leadsWithVersion = 1 ∧
        ∃ t ∈ answers, leadsWithVersion t = true ∧ ofAnswers answers = (parse (Text.trim t)).map some) ∨
      (2 ≤ answers.countP leadsWithVersion ∧
        ofAnswers answers = .error (.multipleRecords (answers.countP leadsWithVersion))) := by
  have hleads : ∀ t, isPolicyText (Text.trim t) = leadsWithVersion t := fun t => by
    rw [isPolicyText_trim, isPolicyText_eq_leadsWithVersion]
  have hcount : answers.countP leadsWithVersion = ((answers.map Text.trim).filter isPolicyText).length := by
    rw [← List.countP_eq_length_filter, List.countP_map]
    exact List.countP_congr fun t _ => by rw [Function.comp_apply, hleads]
  rw [hcount, ofAnswers, select]
  cases hfound : (answers.map Text.trim).filter isPolicyText with
  | nil => exact .inl ⟨rfl, rfl⟩
  | cons u us =>
    cases us with
    | nil =>
      have hmem : u ∈ (answers.map Text.trim).filter isPolicyText := hfound ▸ List.mem_singleton_self u
      obtain ⟨hmem, hpolicy⟩ := List.mem_filter.mp hmem
      obtain ⟨t, ht, rfl⟩ := List.mem_map.mp hmem
      exact .inr (.inl ⟨rfl, t, ht, hleads t ▸ hpolicy, rfl⟩)
    | cons v vs =>
      refine .inr (.inr ⟨?_, rfl⟩)
      rw [List.length_cons, List.length_cons]
      omega

/-- The first word is the version exactly if the trimmed text is not refused for it. -/
lemma leadsWithVersion_iff_parse_ne (t : Text) :
    leadsWithVersion t = true ↔ parse (Text.trim t) ≠ .error .invalidVersion := by
  rw [leadsWithVersion, parse_ne_invalidVersion_iff]

/-- No list of answers is refused for the version, since what is found starts with it. -/
lemma ofAnswers_ne_invalidVersion (answers : List Text) : ofAnswers answers ≠ .error .invalidVersion := by
  rcases ofAnswers_cases answers with ⟨-, h⟩ | ⟨-, t, -, hleads, h⟩ | ⟨-, h⟩
  · rw [h]
    rintro ⟨⟩
  · rw [h]
    intro herror
    exact (leadsWithVersion_iff_parse_ne t).mp hleads (eq_error_of_map_eq_error herror)
  · rw [h]
    rintro ⟨⟩

/-- Answers are refused as several policies, by their number, if at least two start with the version. -/
lemma ofAnswers_eq_multipleRecords_iff (answers : List Text) (n : Nat) :
    ofAnswers answers = .error (.multipleRecords n) ↔ 2 ≤ n ∧ answers.countP leadsWithVersion = n := by
  rcases ofAnswers_cases answers with ⟨hcount, h⟩ | ⟨hcount, t, -, -, h⟩ | ⟨hcount, h⟩
  · rw [h]
    refine iff_of_false ?_ (by omega)
    rintro ⟨⟩
  · rw [h]
    refine iff_of_false (fun herror => ?_) (by omega)
    have hfaults := isOfTerm_of_parse (eq_error_of_map_eq_error herror) (by rintro ⟨⟩)
    cases hfaults
  · rw [h, Except.error.injEq, PolicyError.multipleRecords.injEq]
    constructor
    · rintro rfl
      exact ⟨hcount, rfl⟩
    · exact fun hn => hn.2

/-- A policy that was found is found again in its own text. -/
lemma ofAnswers_text {answers : List Text} (h : ofAnswers answers = .ok (some p)) :
    ofAnswers [p.text] = .ok (some p) := by
  rcases ofAnswers_cases answers with ⟨-, hnone⟩ | ⟨-, t, -, -, hparse⟩ | ⟨-, herror⟩
  · rw [hnone] at h
    cases h
  · rw [hparse] at h
    obtain ⟨q, hq, hsome⟩ := exists_of_map_eq_ok h
    obtain rfl := Option.some.inj hsome
    have hwell := wellFormed_of_parse hq
    have htrim := trim_text_of_parse hq
    have hleads : leadsWithVersion q.text = true := by
      rw [leadsWithVersion, htrim, words_text hwell, List.head?_cons, Option.any_some]
      decide
    -- the printed policy leads with the version, so it is the one policy among one text
    have hcount : [q.text].countP leadsWithVersion = 1 := by rw [List.countP_singleton, if_pos hleads]
    rcases ofAnswers_cases [q.text] with ⟨hzero, -⟩ | ⟨-, u, hu, -, hread⟩ | ⟨htwo, -⟩
    · omega
    · rw [List.mem_singleton.mp hu, htrim, parse_text hwell] at hread
      exact hread
    · omega
  · rw [herror] at h
    cases h

/-- Finding and reading agree on what a policy is: a text is found as a policy exactly if it is not refused for its
version. So no answers are refused for the version, none is found exactly if no text starts with the version, several
are refused exactly if two or more do, and a policy that is found is found again in its own text. -/
theorem isPolicyText_and_ofAnswers :
    (∀ t, isPolicyText t = true ↔ parse (Text.trim t) ≠ .error .invalidVersion) ∧
      ∀ answers : List Text, ofAnswers answers ≠ .error .invalidVersion ∧
        (ofAnswers answers = .ok none ↔ ∀ t ∈ answers, leadsWithVersion t = false) ∧
        (∀ n, ofAnswers answers = .error (.multipleRecords n) ↔ 2 ≤ n ∧ answers.countP leadsWithVersion = n) ∧
        ∀ p, ofAnswers answers = .ok (some p) → ofAnswers [p.text] = .ok (some p) := by
  refine ⟨fun t => ?_, fun answers => ⟨ofAnswers_ne_invalidVersion answers, ?_,
    ofAnswers_eq_multipleRecords_iff answers, fun p => ofAnswers_text⟩⟩
  · rw [isPolicyText_eq_leadsWithVersion, leadsWithVersion_iff_parse_ne]
  · rw [ofAnswers_eq_none_iff, List.all_eq_true]
    simp only [isPolicyText_eq_leadsWithVersion, Bool.not_eq_true']

/-- Among two answers with blanks of both classes around them, a policy is found, and again in its own text. -/
theorem isPolicyText_and_ofAnswers_blanks :
    ∃ p, ofAnswers ["v=spf10 -all".toList, "\u00a0V=SPF1\t+all  x=y\x0b".toList] = .ok (some p) ∧
      p.text = "v=spf1 all x=y".toList ∧ ofAnswers [p.text] = .ok (some p) := by
  have hfound : ofAnswers ["v=spf10 -all".toList, "\u00a0V=SPF1\t+all  x=y\x0b".toList] =
      .ok (some ⟨[.directive ⟨.pass, .all⟩, .modifier (.unknown "x".toList "y".toList)]⟩) := by
    decide +kernel
  exact ⟨_, hfound, by decide, (isPolicyText_and_ofAnswers.2 _).2.2.2 _ hfound⟩

end Policy

end SenderPolicy
