import SenderPolicy.Proofs.LetterCase
import SenderPolicy.Proofs.PolicyText

/-!
# How a directive is written

Which texts are read as a directive: a sign or none, the name of a mechanism in letters of any case, and what the
mechanism takes. Each reader is turned round, so that the text is told by what was read (`readMechanism_eq_ok_iff`,
`readTerm_eq_directive_iff`).

A mechanism that looks addresses up takes its lengths as they are printed. A network takes more: its length may stand
after a plus sign, and then after zeros, because a sign is part of no numeral that a lookup cuts off.
-/

namespace SenderPolicy

/-! ## The texts of a mechanism -/

/-- A length of a network is written as its numeral, or as a plus sign and its numeral after any zeros. -/
def Network.IsLength (n : Nat) (t : Text) : Prop :=
  t = Text.ofNat n ∨ ∃ zeros, t = '+' :: (List.replicate zeros '0' ++ Text.ofNat n)

/-- A network is written as a colon, an address and, if it has a length, a slash and a length that fits. -/
def Network.IsWritten {α : Type} (ofText? : Text → Option α) (most : Nat) (network : α) (length : Option Nat)
    (t : Text) : Prop :=
  ∃ address, ofText? address = some network ∧ '/' ∉ address ∧
    match length with
    | none => t = ':' :: address
    | some n => n ≤ most ∧ ∃ digits, IsLength n digits ∧ t = ':' :: address ++ '/' :: digits

/-- What may stand after the name of the mechanism. -/
def Mechanism.IsWritten (m : Mechanism) (t : Text) : Prop :=
  match m with
  | all => t = []
  | includes target | existing target => Policy.checkTarget m.kind.word target = .ok () ∧ t = ':' :: target
  | a target lengths | mx target lengths =>
    (∀ u ∈ target, Policy.checkTarget m.kind.word u = .ok ()) ∧ lengths.WellFormed ∧
      t = targetText target ++ lengths.text
  | ptr target => (∀ u ∈ target, Policy.checkTarget m.kind.word u = .ok ()) ∧ t = targetText target
  | ip4 network length => Network.IsWritten V4.ofText? Network.width4 network length t
  | ip6 network length => Network.IsWritten V6.ofText? Network.width6 network length t

/-- A qualifier is written as its sign, and the one that passes also as nothing. -/
def Qualifier.IsWritten (q : Qualifier) (t : Text) : Prop :=
  t = [q.sign] ∨ q = pass ∧ t = []

/-- A directive is written as a sign or nothing, the name of its mechanism in letters of any case, and what may stand
after the name. -/
def Directive.IsWritten (d : Directive) (word : Text) : Prop :=
  ∃ sign name rest, word = sign ++ (name ++ rest) ∧ d.qualifier.IsWritten sign ∧
    Text.lower name = d.mechanism.kind.word ∧ d.mechanism.IsWritten rest

namespace Policy

variable {kind : MechanismKind} {t rest head word : Text} {n most : Nat}

/-! ## Lengths -/

/-- A length is read from a numeral, perhaps with a plus sign and zeros before it, if it fits. -/
lemma readLength_eq_ok_iff : readLength most t = .ok n ↔ n ≤ most ∧ Network.IsLength n t := by
  constructor
  · intro h
    refine ⟨le_of_readLength h, ?_⟩
    rw [readLength] at h
    split at h
    · cases h
    · next hzero =>
      split at h
      · next m hm =>
        obtain rfl := Except.ok.inj h
        rw [Text.boundedNumeral?, Option.filter_eq_some_iff, Text.signedNumeral?.eq_def] at hm
        obtain ⟨hnumeral, -⟩ := hm
        split at hnumeral
        · next digits =>
          obtain ⟨zeros, rfl⟩ := Text.numeral?_eq_some_iff.mp hnumeral
          exact .inr ⟨zeros, rfl⟩
        · exact .inl (Text.eq_ofNat_of_numeral? hnumeral hzero)
      · cases h
  · rintro ⟨hle, rfl | ⟨zeros, rfl⟩⟩
    · exact readLength_ofNat hle
    · have hnumeral : Text.numeral? (List.replicate zeros '0' ++ Text.ofNat n) = some n :=
        Text.numeral?_eq_some_iff.mpr ⟨zeros, rfl⟩
      have hbounded : Text.boundedNumeral? most ('+' :: (List.replicate zeros '0' ++ Text.ofNat n)) = some n := by
        rw [Text.boundedNumeral?, Text.signedNumeral?, hnumeral, Option.filter_some, if_pos (by simpa using hle)]
      rw [readLength, if_neg (by simp), hbounded]

/-- A length that is read from digits is printed by them. -/
lemma eq_ofNat_of_readLength (h : readLength most t = .ok n) (ht : ∀ c ∈ t, c.isDigit) : t = Text.ofNat n := by
  obtain ⟨-, rfl | ⟨zeros, rfl⟩⟩ := readLength_eq_ok_iff.mp h
  · rfl
  · exact absurd (ht '+' List.mem_cons_self) (by decide)

/-- A length is cut off with the slash before it. -/
lemma eq_of_cutLength {before digits : Text} (h : cutLength t = some (before, digits)) :
    t = before ++ '/' :: digits ∧ ∀ c ∈ digits, c.isDigit := by
  have hcut : (cutDigits t).1 ++ (cutDigits t).2 = t := by
    rw [cutDigits, ← List.reverse_append, List.takeWhile_append_dropWhile, List.reverse_reverse]
  have hdigits : ∀ c ∈ (cutDigits t).2, c.isDigit := fun c hc =>
    List.mem_takeWhile_imp (List.mem_reverse.mp hc)
  rw [cutLength] at h
  split at h
  · cases h
  · next before' digits' _ hparts =>
    rw [hparts] at hcut hdigits
    split at h
    · next hslash =>
      obtain ⟨rfl, rfl⟩ := Prod.mk.inj (Option.some.inj h)
      obtain ⟨front, rfl⟩ := List.getLast?_eq_some_iff.mp hslash
      rw [List.dropLast_concat, List.append_cons]
      exact ⟨hcut.symm, hdigits⟩
    · cases h

/-- Numerals after their slashes at the end of a text are cut off from it. -/
lemma eq_of_cutLengths {v4 v6 : Option Text} (h : cutLengths t = (head, v4, v6)) :
    t = head ++ v4.elim [] ('/' :: ·) ++ v6.elim [] ('/' :: '/' :: ·) ∧ (∀ s ∈ v4, ∀ c ∈ s, c.isDigit) ∧
      ∀ s ∈ v6, ∀ c ∈ s, c.isDigit := by
  rw [cutLengths] at h
  split at h
  · cases h
    refine ⟨by simp, ?_, ?_⟩ <;> rintro _ ⟨⟩
  · next before digits hcut =>
    obtain ⟨rfl, hdigits⟩ := eq_of_cutLength hcut
    split at h
    · -- a second slash is left, so what was cut off is the length of the other family
      next hslash =>
      obtain ⟨front, rfl⟩ := List.getLast?_eq_some_iff.mp hslash
      rw [List.dropLast_concat] at h
      split at h
      · cases h
        refine ⟨by simp, ?_, ?_⟩
        · rintro _ ⟨⟩
        · rintro _ ⟨⟩
          exact hdigits
      · next before' digits' hcut' =>
        obtain ⟨rfl, hdigits'⟩ := eq_of_cutLength hcut'
        cases h
        refine ⟨by simp, ?_, ?_⟩
        · rintro _ ⟨⟩
          exact hdigits'
        · rintro _ ⟨⟩
          exact hdigits
    · cases h
      refine ⟨by simp, ?_, ?_⟩
      · rintro _ ⟨⟩
        exact hdigits
      · rintro _ ⟨⟩

/-- A length that is read from digits, if there is any, is printed by them. -/
lemma part_eq_of_mapM_readLength {digits : Option Text} {length : Option Nat} (mark : Text)
    (h : digits.mapM (readLength most) = .ok length) (hdigits : ∀ s ∈ digits, ∀ c ∈ s, c.isDigit) :
    digits.elim [] (mark ++ ·) = Lengths.part mark length := by
  cases digits with
  | none =>
    obtain rfl := Except.ok.inj h
    rfl
  | some s =>
    obtain ⟨n, hn, h⟩ := exists_of_bind_eq_ok h
    obtain rfl := Except.ok.inj h
    rw [eq_ofNat_of_readLength hn (hdigits s rfl)]
    rfl

/-- A text of which lengths are read ends in those lengths as they are printed. -/
lemma eq_of_readLengths {l : Lengths} (h : readLengths t = .ok (head, l)) : t = head ++ l.text := by
  rw [readLengths] at h
  obtain ⟨v4, hv4, h⟩ := exists_of_bind_eq_ok h
  obtain ⟨v6, hv6, h⟩ := exists_of_bind_eq_ok h
  obtain ⟨rfl, rfl⟩ := Prod.mk.inj (Except.ok.inj h)
  obtain ⟨ht, hdigits4, hdigits6⟩ := eq_of_cutLengths (t := t) rfl
  have hpart4 := part_eq_of_mapM_readLength ['/'] hv4 hdigits4
  have hpart6 := part_eq_of_mapM_readLength ['/', '/'] hv6 hdigits6
  rw [Lengths.text, ← List.append_assoc]
  exact ht.trans (congrArg₂ (fun s u => (cutLengths t).1 ++ s ++ u) hpart4 hpart6)

/-! ## Targets -/

/-- A target that may be absent is written after a colon, or not at all. -/
lemma optionalTarget_eq_ok_iff {target : Option Text} : optionalTarget kind rest = .ok target ↔
    (∀ u ∈ target, checkTarget kind.word u = .ok ()) ∧ rest = Mechanism.targetText target := by
  constructor
  · intro h
    rw [optionalTarget.eq_def] at h
    split at h
    · obtain rfl := Except.ok.inj h
      refine ⟨?_, rfl⟩
      rintro _ ⟨⟩
    · obtain ⟨⟨⟩, hcheck, rfl⟩ := exists_of_map_eq_ok h
      refine ⟨?_, rfl⟩
      rintro _ ⟨⟩
      exact hcheck
    · cases h
  · rintro ⟨hcheck, rfl⟩
    exact optionalTarget_targetText hcheck

/-- A target that must be there is written after a colon. -/
lemma requiredTarget_eq_ok_iff :
    requiredTarget kind rest = .ok t ↔ checkTarget kind.word t = .ok () ∧ rest = ':' :: t := by
  constructor
  · intro h
    obtain ⟨target, htarget, h⟩ := exists_of_bind_eq_ok h
    cases target with
    | none => cases h
    | some target =>
      obtain rfl := Except.ok.inj h
      obtain ⟨hcheck, hrest⟩ := optionalTarget_eq_ok_iff.mp htarget
      exact ⟨hcheck _ rfl, hrest⟩
  · rintro ⟨hcheck, rfl⟩
    exact requiredTarget_targetText hcheck

/-! ## Networks -/

/-- A network is read exactly from the texts in which it is written. -/
lemma readNetwork_eq_ok_iff {α : Type} {ofText? : Text → Option α} {invalid : Text → PolicyError} {network : α}
    {length : Option Nat} :
    readNetwork ofText? most invalid rest = .ok (network, length) ↔
      Network.IsWritten ofText? most network length rest := by
  constructor
  · intro h
    rw [readNetwork.eq_def] at h
    split at h
    · next value =>
      simp only at h
      cases hcut : Text.cutFirst '/' value with
      | none =>
        rw [hcut] at h
        split at h
        · next network' haddress =>
          cases h
          exact ⟨value, haddress, Text.notMem_of_cutFirst hcut, rfl⟩
        · cases h
      | some parts =>
        obtain ⟨address, digits⟩ := parts
        obtain ⟨rfl, hslash⟩ := Text.cutFirst_eq_some_iff.mp hcut
        rw [hcut] at h
        split at h
        · next network' haddress =>
          obtain ⟨length, hlength, h⟩ := exists_of_bind_eq_ok h
          obtain ⟨n, hn, hlength⟩ := exists_of_bind_eq_ok hlength
          cases hlength
          cases h
          obtain ⟨hle, hdigits⟩ := readLength_eq_ok_iff.mp hn
          exact ⟨address, haddress, hslash, hle, digits, hdigits, rfl⟩
        · cases h
    · cases h
  · rintro ⟨address, haddress, hslash, hlength⟩
    cases length with
    | none =>
      rw [hlength, readNetwork, Text.cutFirst_eq_none hslash]
      simp only [haddress]
      rfl
    | some n =>
      obtain ⟨hle, digits, hdigits, rfl⟩ := hlength
      -- no address holds a slash, so the first one is that of the length
      have hcut : Text.cutFirst '/' (address ++ '/' :: digits) = some (address, digits) := Text.cutFirst_append hslash
      rw [List.cons_append, readNetwork, hcut]
      simp only [haddress]
      exact bind_eq_ok (bind_eq_ok (readLength_eq_ok_iff.mpr ⟨hle, hdigits⟩) rfl) rfl

/-! ## Mechanisms -/

/-- What a mechanism that looks addresses up reads is its target and its lengths, as they are printed. -/
lemma readLookup_eq_ok_iff {make : Option Text → Lengths → Mechanism} {m : Mechanism} :
    (readLengths rest >>= fun (head, l) => optionalTarget kind head >>= fun target => pure (make target l)) = .ok m ↔
      ∃ target l, m = make target l ∧ (∀ u ∈ target, checkTarget kind.word u = .ok ()) ∧ l.WellFormed ∧
        rest = Mechanism.targetText target ++ l.text := by
  constructor
  · intro h
    obtain ⟨⟨head, l⟩, hlengths, h⟩ := exists_of_bind_eq_ok h
    obtain ⟨target, htarget, hmake⟩ := exists_of_bind_eq_ok h
    obtain ⟨hcheck, hhead⟩ := optionalTarget_eq_ok_iff.mp htarget
    obtain ⟨hl, -⟩ := wellFormed_of_readLengths hlengths
    exact ⟨target, l, (Except.ok.inj hmake).symm, hcheck, hl, hhead ▸ eq_of_readLengths hlengths⟩
  · rintro ⟨target, l, rfl, hcheck, hl, rfl⟩
    exact readLookup_text make hcheck hl

/-- A mechanism that is read is written so, and is of the kind that was named. -/
lemma isWritten_of_readMechanism {m : Mechanism} (h : readMechanism kind rest = .ok m) :
    m.kind = kind ∧ m.IsWritten rest := by
  cases kind with
  | all =>
    rw [readMechanism] at h
    split at h
    · next hempty =>
      obtain rfl := Except.ok.inj h
      exact ⟨rfl, List.isEmpty_iff.mp hempty⟩
    · cases h
  | includes =>
    obtain ⟨t, ht, rfl⟩ := exists_of_map_eq_ok h
    exact ⟨rfl, requiredTarget_eq_ok_iff.mp ht⟩
  | existing =>
    obtain ⟨t, ht, rfl⟩ := exists_of_map_eq_ok h
    exact ⟨rfl, requiredTarget_eq_ok_iff.mp ht⟩
  | a =>
    obtain ⟨target, l, rfl, hwritten⟩ := readLookup_eq_ok_iff.mp h
    exact ⟨rfl, hwritten⟩
  | mx =>
    obtain ⟨target, l, rfl, hwritten⟩ := readLookup_eq_ok_iff.mp h
    exact ⟨rfl, hwritten⟩
  | ptr =>
    obtain ⟨target, htarget, rfl⟩ := exists_of_map_eq_ok h
    exact ⟨rfl, optionalTarget_eq_ok_iff.mp htarget⟩
  | ip4 =>
    obtain ⟨⟨network, length⟩, hnetwork, h⟩ := exists_of_bind_eq_ok h
    obtain rfl := Except.ok.inj h
    exact ⟨rfl, readNetwork_eq_ok_iff.mp hnetwork⟩
  | ip6 =>
    obtain ⟨⟨network, length⟩, hnetwork, h⟩ := exists_of_bind_eq_ok h
    obtain rfl := Except.ok.inj h
    exact ⟨rfl, readNetwork_eq_ok_iff.mp hnetwork⟩

/-- A mechanism is read from what may stand after its name. -/
lemma readMechanism_of_isWritten {m : Mechanism} (h : m.IsWritten rest) : readMechanism m.kind rest = .ok m := by
  cases m with
  | all =>
    obtain rfl : rest = [] := h
    rfl
  | includes target => exact congrArg (Except.map Mechanism.includes) (requiredTarget_eq_ok_iff.mpr h)
  | existing target => exact congrArg (Except.map Mechanism.existing) (requiredTarget_eq_ok_iff.mpr h)
  | a target l => exact readLookup_eq_ok_iff.mpr ⟨target, l, rfl, h⟩
  | mx target l => exact readLookup_eq_ok_iff.mpr ⟨target, l, rfl, h⟩
  | ptr target => exact congrArg (Except.map Mechanism.ptr) (optionalTarget_eq_ok_iff.mpr h)
  | ip4 network length => exact bind_eq_ok (readNetwork_eq_ok_iff.mpr h) rfl
  | ip6 network length => exact bind_eq_ok (readNetwork_eq_ok_iff.mpr h) rfl

/-- A mechanism is read from the texts in which it is written, after the name of its kind. -/
theorem readMechanism_eq_ok_iff {m : Mechanism} :
    readMechanism kind rest = .ok m ↔ m.kind = kind ∧ m.IsWritten rest := by
  constructor
  · exact isWritten_of_readMechanism
  · rintro ⟨rfl, h⟩
    exact readMechanism_of_isWritten h

/-! ## Directives -/

/-- What ends a name does so in either case. -/
lemma caseBlind_endsName : Text.CaseBlind endsName :=
  .of_capitals (by decide)

/-- The names of mechanisms are in small letters. -/
lemma lower_word (kind : MechanismKind) : Text.lower kind.word = kind.word := by
  cases kind <;> decide

/-- A word names a kind of mechanism exactly if it is its name in small letters. -/
lemma ofWord?_eq_some_iff : MechanismKind.ofWord? t = some kind ↔ Text.lower t = kind.word := by
  constructor
  · intro h
    rw [MechanismKind.ofWord?] at h
    have hfound := List.find?_some h
    exact (eq_of_beq hfound).symm
  · intro h
    have hself := MechanismKind.ofWord?_word kind
    rwa [MechanismKind.ofWord?, lower_word, ← h] at hself

section

variable {name : Text} (hname : Text.lower name = kind.word)

include hname

/-- The name of a mechanism starts with a letter. -/
lemma exists_eq_cons_of_lower_eq_word : ∃ c t, name = c :: t ∧ c.isAlpha := by
  obtain ⟨d, u, hword, hd⟩ := exists_word_eq_cons kind
  rw [hword] at hname
  cases name with
  | nil => cases hname
  | cons c t =>
    obtain ⟨rfl, -⟩ := List.cons.inj hname
    have hblind : Text.CaseBlind Char.isAlpha := .of_capitals (by decide)
    exact ⟨c, t, rfl, hblind c ▸ hd⟩

/-- The name of a mechanism starts with no sign. -/
lemma cutQualifier_name (rest : Text) : cutQualifier (name ++ rest) = (none, name ++ rest) := by
  obtain ⟨c, t, rfl, hc⟩ := exists_eq_cons_of_lower_eq_word hname
  exact cutQualifier_of_isAlpha hc _

/-- The name of a mechanism is cut off where a character follows that ends a name. -/
lemma cut_name (hrest : ∀ c ∈ rest.head?, endsName c = true) : Text.cut endsName (name ++ rest) = (name, rest) := by
  refine Text.cut_append (fun c hc => ?_) hrest
  have hmem : c.toLower ∈ kind.word := hname ▸ List.mem_map_of_mem hc
  rw [← caseBlind_endsName c]
  exact endsName_of_isAlphanum (isAlphanum_of_mem_word kind hmem)

end

/-- A written network starts with a colon. -/
lemma Network.head?_of_isWritten {α : Type} {ofText? : Text → Option α} {network : α} {length : Option Nat}
    (h : Network.IsWritten ofText? most network length rest) : rest.head? = some ':' := by
  obtain ⟨address, -, -, hlength⟩ := h
  cases length with
  | none =>
    rw [hlength]
    rfl
  | some n =>
    obtain ⟨-, digits, -, rfl⟩ := hlength
    rfl

/-- What stands after the name of a mechanism starts with a colon or a slash. -/
lemma of_mem_head?_isWritten {m : Mechanism} (h : m.IsWritten rest) {c : Char} (hc : c ∈ rest.head?) :
    c = ':' ∨ c = '/' := by
  cases m with
  | all =>
    obtain rfl : rest = [] := h
    cases hc
  | includes target =>
    obtain ⟨-, rfl⟩ := h
    exact .inl (Option.some.inj hc).symm
  | existing target =>
    obtain ⟨-, rfl⟩ := h
    exact .inl (Option.some.inj hc).symm
  | a target l =>
    obtain ⟨-, -, rfl⟩ := h
    exact of_mem_head?_lookup hc
  | mx target l =>
    obtain ⟨-, -, rfl⟩ := h
    exact of_mem_head?_lookup hc
  | ptr target =>
    obtain ⟨-, rfl⟩ := h
    have hlookup : c ∈ (Mechanism.targetText target ++ Lengths.text ⟨none, none⟩).head? := by
      rwa [Lengths.text, Lengths.part, Lengths.part, List.append_nil, List.append_nil]
    exact of_mem_head?_lookup hlookup
  | ip4 network length =>
    rw [Network.head?_of_isWritten h] at hc
    exact .inl (Option.some.inj hc).symm
  | ip6 network length =>
    rw [Network.head?_of_isWritten h] at hc
    exact .inl (Option.some.inj hc).symm

/-- What may stand after the name of a mechanism ends that name. -/
lemma endsName_of_isWritten {m : Mechanism} (h : m.IsWritten rest) : ∀ c ∈ rest.head?, endsName c = true := by
  intro c hc
  rcases of_mem_head?_isWritten h hc with rfl | rfl <;> rfl

/-- A sign or nothing is cut off a word. -/
lemma exists_of_cutQualifier (word : Text) :
    ∃ sign, word = sign ++ (cutQualifier word).2 ∧ ((cutQualifier word).1.getD .pass).IsWritten sign := by
  rw [cutQualifier.eq_def]
  split
  · exact ⟨[], rfl, .inr ⟨rfl, rfl⟩⟩
  · next c rest =>
    split
    · next q hq =>
      rw [Qualifier.ofSign?] at hq
      have hfound := List.find?_some hq
      exact ⟨[c], rfl, .inl (congrArg (fun d => [d]) (eq_of_beq hfound).symm)⟩
    · exact ⟨[], rfl, .inr ⟨rfl, rfl⟩⟩

/-- A directive that is read is written so. -/
theorem isWritten_of_readTerm {d : Directive} (h : readTerm word = .ok (.directive d)) : d.IsWritten word := by
  obtain ⟨sign, hword, hsign⟩ := exists_of_cutQualifier word
  have happend := Text.cut_eq_append (p := endsName) (cutQualifier word).2
  simp only [readTerm] at h
  split at h
  · split at h
    · cases h
    · obtain ⟨m, -, h⟩ := exists_of_bind_eq_ok h
      cases h
  · split at h
    · next kind hkind =>
      obtain ⟨m, hm, h⟩ := exists_of_bind_eq_ok h
      cases h
      obtain ⟨rfl, hwritten⟩ := readMechanism_eq_ok_iff.mp hm
      exact ⟨sign, _, _, by rw [happend, ← hword], hsign, ofWord?_eq_some_iff.mp hkind, hwritten⟩
    · cases h

/-- A directive is read from every word in which it is written. -/
theorem readTerm_of_isWritten {d : Directive} (h : d.IsWritten word) : readTerm word = .ok (.directive d) := by
  obtain ⟨q, m⟩ := d
  obtain ⟨sign, name, rest, rfl, hsign, hname, hwritten⟩ := h
  have hcut : (cutQualifier (sign ++ (name ++ rest))).1.getD .pass = q ∧
      (cutQualifier (sign ++ (name ++ rest))).2 = name ++ rest := by
    rcases hsign with rfl | ⟨hpass, rfl⟩
    · rw [List.singleton_append, cutQualifier_sign]
      exact ⟨rfl, rfl⟩
    · rw [List.nil_append, cutQualifier_name hname]
      exact ⟨hpass.symm, rfl⟩
  obtain ⟨hqualifier, hbody⟩ := hcut
  have hread := readMechanism_eq_ok_iff.mpr ⟨rfl, hwritten⟩
  rw [readTerm]
  simp only [hbody, cut_name hname (endsName_of_isWritten hwritten)]
  split
  · next value =>
    -- only an equals sign after the name would make a modifier of it
    exact absurd (of_mem_head?_isWritten hwritten (c := '=') rfl) (by decide)
  · simp only [hqualifier, ofWord?_eq_some_iff.mpr hname, hread]
    rfl

/-- A word is read as a directive exactly if the directive is written so. So the length of a lookup is read from its
numeral only, and that of a network also from a numeral after a plus sign and zeros. -/
theorem readTerm_eq_directive_iff (d : Directive) : readTerm word = .ok (.directive d) ↔ d.IsWritten word :=
  ⟨isWritten_of_readTerm, readTerm_of_isWritten⟩

/-- The length of a network is read from a text that is not its numeral, and the length of a lookup is not. -/
theorem readTerm_signedLength :
    readTerm ("ip4:192.0.2.0".toList ++ '/' :: "+24".toList) =
        .ok (.directive ⟨.pass, .ip4 ⟨0xC0000200⟩ (some 24)⟩) ∧
      "+24".toList ≠ Text.ofNat 24 ∧
      readTerm ("a".toList ++ '/' :: "+24".toList) = .error (.unexpectedArgument "a".toList) := by
  decide +kernel

end Policy

end SenderPolicy
