import Mathlib.Data.List.Forall2
import SenderPolicy.Proofs.Numerals
import SenderPolicy.Proofs.WellFormed
import SenderPolicy.Proofs.Words

/-!
# Reading yields well-formed policies

What each reader of a policy makes of a text is well formed if the text is a word. Main statement: a policy that is
read is well formed (`wellFormed_of_parse`).
-/

namespace SenderPolicy

/-! ## Steps of a reader -/

section

variable {ε α β : Type} {x : Except ε α} {b : β}

/-- Two steps give a value if the first gives one and the second makes it of that. -/
lemma exists_of_bind_eq_ok {f : α → Except ε β} (h : x >>= f = .ok b) : ∃ a, x = .ok a ∧ f a = .ok b := by
  cases x with
  | error e => cases h
  | ok a => exact ⟨a, rfl, h⟩

/-- What a mapped step gives is the image of a value. -/
lemma exists_of_map_eq_ok {f : α → β} (h : x.map f = .ok b) : ∃ a, x = .ok a ∧ f a = b := by
  cases x with
  | error e => cases h
  | ok a => exact ⟨a, rfl, Except.ok.inj h⟩

/-- A mapped step fails as the step does. -/
lemma eq_error_of_map_eq_error {f : α → β} {e : ε} (h : x.map f = .error e) : x = .error e := by
  cases x with
  | ok a => cases h
  | error e' => exact congrArg Except.error (Except.error.inj h)

end

namespace Policy

variable {kind : MechanismKind} {t rest head word name value : Text} {n most : Nat}

/-! ## Targets and lengths -/

/-- A target that is read, if there is one, is a checked word. -/
lemma isTarget_of_optionalTarget {target : Option Text} (h : optionalTarget kind rest = .ok target)
    (hrest : rest.Unbroken) : ∀ t ∈ target, IsTarget kind.word t := by
  rw [optionalTarget.eq_def] at h
  split at h
  · obtain rfl := Except.ok.inj h
    exact nofun
  · obtain ⟨⟨⟩, hcheck, rfl⟩ := exists_of_map_eq_ok h
    rintro _ ⟨⟩
    exact ⟨hcheck, fun c hc => hrest c (List.mem_cons_of_mem _ hc)⟩
  · cases h

/-- A required target that is read is a checked word. -/
lemma isTarget_of_requiredTarget (h : requiredTarget kind rest = .ok t) (hrest : rest.Unbroken) :
    IsTarget kind.word t := by
  obtain ⟨target, htarget, h⟩ := exists_of_bind_eq_ok h
  cases target with
  | none => cases h
  | some target =>
    obtain rfl := Except.ok.inj h
    exact isTarget_of_optionalTarget htarget hrest _ rfl

/-- A length that is read fits the width of its address. -/
lemma le_of_readLength (h : readLength most t = .ok n) : n ≤ most := by
  rw [readLength] at h
  split at h
  · cases h
  · split at h
    · next m hm =>
      obtain rfl := Except.ok.inj h
      exact Text.le_of_boundedNumeral? hm
    · cases h

/-- A length that is read, if there is one, fits. -/
lemma le_of_mapM_readLength {digits : Option Text} {length : Option Nat}
    (h : digits.mapM (readLength most) = .ok length) : ∀ n ∈ length, n ≤ most := by
  cases digits with
  | none =>
    obtain rfl := Except.ok.inj h
    exact nofun
  | some digits =>
    obtain ⟨n, hn, h⟩ := exists_of_bind_eq_ok h
    obtain rfl := Except.ok.inj h
    rintro _ ⟨⟩
    exact le_of_readLength hn

/-- What stands before a length is a part of the text. -/
lemma cutLength_subset {before digits : Text} (h : cutLength t = some (before, digits)) : before ⊆ t := by
  have hcut : (cutDigits t).1 ⊆ t := by
    intro c hc
    exact List.mem_reverse.mp ((List.dropWhile_suffix _).subset (List.mem_reverse.mp hc))
  rw [cutLength] at h
  split at h
  · cases h
  · next before' digits' _ hdigits =>
    rw [hdigits] at hcut
    split at h
    · obtain ⟨rfl, -⟩ := Prod.mk.inj (Option.some.inj h)
      exact List.Subset.trans (List.dropLast_subset _) hcut
    · cases h

/-- What stands before the lengths is a part of the text. -/
lemma cutLengths_subset (t : Text) : (cutLengths t).1 ⊆ t := by
  rw [cutLengths]
  split
  · exact List.Subset.refl t
  · next before digits hcut =>
    have hbefore := cutLength_subset hcut
    split
    · have hlast := List.Subset.trans (List.dropLast_subset before) hbefore
      split
      · exact hlast
      · next hcut' => exact List.Subset.trans (cutLength_subset hcut') hlast
    · exact hbefore

/-- Lengths that are read fit, and what stands before them is a part of the text. -/
lemma wellFormed_of_readLengths {l : Lengths} (h : readLengths t = .ok (head, l)) :
    l.WellFormed ∧ head ⊆ t := by
  have hsubset := cutLengths_subset t
  rw [readLengths] at h
  obtain ⟨v4, hv4, h⟩ := exists_of_bind_eq_ok h
  obtain ⟨v6, hv6, h⟩ := exists_of_bind_eq_ok h
  obtain ⟨rfl, rfl⟩ := Prod.mk.inj (Except.ok.inj h)
  exact ⟨⟨le_of_mapM_readLength hv4, le_of_mapM_readLength hv6⟩, hsubset⟩

/-- The length of a network that is read, if there is one, fits the width of its address. -/
lemma le_of_readNetwork {α : Type} {ofText? : Text → Option α} {invalid : Text → PolicyError} {network : α}
    {length : Option Nat} (h : readNetwork ofText? most invalid rest = .ok (network, length)) :
    ∀ n ∈ length, n ≤ most := by
  rw [readNetwork.eq_def] at h
  split at h
  · next value =>
    simp only at h
    split at h
    · obtain ⟨length, hlength, h⟩ := exists_of_bind_eq_ok h
      obtain ⟨-, rfl⟩ := Prod.mk.inj (Except.ok.inj h)
      exact le_of_mapM_readLength hlength
    · cases h
  · cases h

/-! ## Terms -/

/-- What a mechanism that looks addresses up reads is a checked target and lengths that fit. -/
lemma exists_of_readLookup {make : Option Text → Lengths → Mechanism} {m : Mechanism}
    (h : (readLengths rest >>= fun (head, l) => optionalTarget kind head >>= fun target => pure (make target l)) =
      .ok m) (hrest : rest.Unbroken) :
    ∃ target l, m = make target l ∧ (∀ t ∈ target, IsTarget kind.word t) ∧ l.WellFormed := by
  obtain ⟨⟨head, l⟩, hl, h⟩ := exists_of_bind_eq_ok h
  obtain ⟨target, htarget, h⟩ := exists_of_bind_eq_ok h
  obtain ⟨hl, hsubset⟩ := wellFormed_of_readLengths hl
  refine ⟨target, l, (Except.ok.inj h).symm, ?_, hl⟩
  exact isTarget_of_optionalTarget htarget fun c hc => hrest c (hsubset hc)

/-- A mechanism that is read is well formed. -/
theorem wellFormed_of_readMechanism {m : Mechanism} (h : readMechanism kind rest = .ok m)
    (hrest : rest.Unbroken) : m.WellFormed := by
  cases kind with
  | all =>
    rw [readMechanism] at h
    split at h
    · obtain rfl := Except.ok.inj h
      trivial
    · cases h
  | includes =>
    obtain ⟨t, ht, rfl⟩ := exists_of_map_eq_ok h
    exact isTarget_of_requiredTarget ht hrest
  | existing =>
    obtain ⟨t, ht, rfl⟩ := exists_of_map_eq_ok h
    exact isTarget_of_requiredTarget ht hrest
  | a =>
    obtain ⟨target, l, rfl, hwell⟩ := exists_of_readLookup h hrest
    exact hwell
  | mx =>
    obtain ⟨target, l, rfl, hwell⟩ := exists_of_readLookup h hrest
    exact hwell
  | ptr =>
    obtain ⟨target, htarget, rfl⟩ := exists_of_map_eq_ok h
    exact isTarget_of_optionalTarget htarget hrest
  | ip4 =>
    obtain ⟨⟨network, length⟩, hnetwork, h⟩ := exists_of_bind_eq_ok h
    obtain rfl := Except.ok.inj h
    exact le_of_readNetwork hnetwork
  | ip6 =>
    obtain ⟨⟨network, length⟩, hnetwork, h⟩ := exists_of_bind_eq_ok h
    obtain rfl := Except.ok.inj h
    exact le_of_readNetwork hnetwork

/-- A modifier that is read is well formed. -/
theorem wellFormed_of_readModifier {m : Modifier} (h : readModifier name value = .ok m)
    (hvalue : value.Unbroken) : m.WellFormed := by
  simp only [readModifier] at h
  split at h
  · cases h
  · next hname =>
    rw [Bool.not_eq_true', Bool.not_eq_false] at hname
    split at h
    · obtain ⟨⟨⟩, hcheck, h⟩ := exists_of_bind_eq_ok h
      obtain rfl := Except.ok.inj h
      exact ⟨hcheck, hvalue⟩
    · next hredirect =>
      split at h
      · obtain ⟨⟨⟩, hcheck, h⟩ := exists_of_bind_eq_ok h
        obtain rfl := Except.ok.inj h
        exact ⟨hcheck, hvalue⟩
      · next hexplanation =>
        split at h
        · next hcheck =>
          obtain rfl := Except.ok.inj h
          exact ⟨hname, by simpa using hredirect, by simpa using hexplanation, hcheck, hvalue⟩
        · cases h

/-- What stands behind a qualifier is a part of the word. -/
lemma cutQualifier_subset (word : Text) : (cutQualifier word).2 ⊆ word := by
  rw [cutQualifier.eq_def]
  split
  · exact List.Subset.refl _
  · split
    · exact List.subset_cons_self _ _
    · exact List.Subset.refl _

/-- A term that is read is well formed. -/
theorem wellFormed_of_readTerm {t : Term} (h : readTerm word = .ok t) (hword : word.Unbroken) : t.WellFormed := by
  have hrest : (Text.cut endsName (cutQualifier word).2).2 ⊆ word :=
    List.Subset.trans (List.dropWhile_suffix _).subset (cutQualifier_subset word)
  simp only [readTerm] at h
  split at h
  · next value hcut =>
    split at h
    · cases h
    · obtain ⟨m, hm, h⟩ := exists_of_bind_eq_ok h
      obtain rfl := Except.ok.inj h
      refine wellFormed_of_readModifier hm fun c hc => hword c (hrest ?_)
      rw [hcut]
      exact List.mem_cons_of_mem _ hc
  · split at h
    · obtain ⟨m, hm, h⟩ := exists_of_bind_eq_ok h
      obtain rfl := Except.ok.inj h
      exact wellFormed_of_readMechanism hm fun c hc => hword c (hrest hc)
    · cases h

/-! ## Policies -/

/-- The terms under the unique name of redirections are the redirections. -/
lemma uniqueName?_eq_redirect {t : Term} : uniqueName? t = some "redirect".toList ↔ t.isRedirect = true := by
  rcases t with d | (target | target | ⟨name, value⟩) <;> simp [uniqueName?, Term.isRedirect]

/-- The terms under the unique name of explanations are the explanations. -/
lemma uniqueName?_eq_explanation {t : Term} : uniqueName? t = some "exp".toList ↔ t.isExplanation = true := by
  rcases t with d | (target | target | ⟨name, value⟩) <;> simp [uniqueName?, Term.isExplanation]

/-- There are two unique names. -/
lemma of_uniqueName?_eq_some {t : Term} (h : uniqueName? t = some name) :
    name = "redirect".toList ∨ name = "exp".toList := by
  rcases t with d | (target | target | ⟨name, value⟩) <;> simp_all [uniqueName?]

/-- The unique modifiers of a list of terms are distinct if there is at most one of each. -/
lemma nodup_filterMap_uniqueName? {ts : List Term} :
    (ts.filterMap uniqueName?).Nodup ↔
      ts.countP Term.isRedirect ≤ 1 ∧ ts.countP Term.isExplanation ≤ 1 := by
  have hcount : ∀ name, (ts.filterMap uniqueName?).count name = ts.countP (uniqueName? · == some name) := fun name =>
    List.count_filterMap
  have hredirect : ts.countP (uniqueName? · == some "redirect".toList) = ts.countP Term.isRedirect :=
    List.countP_congr fun t _ => by rw [beq_iff_eq, uniqueName?_eq_redirect]
  have hexplanation : ts.countP (uniqueName? · == some "exp".toList) = ts.countP Term.isExplanation :=
    List.countP_congr fun t _ => by rw [beq_iff_eq, uniqueName?_eq_explanation]
  rw [List.nodup_iff_count]
  constructor
  · intro h
    exact ⟨hredirect ▸ hcount _ ▸ h _, hexplanation ▸ hcount _ ▸ h _⟩
  · rintro ⟨hr, he⟩ name
    by_cases hname : name ∈ ts.filterMap uniqueName?
    · obtain ⟨t, -, ht⟩ := List.mem_filterMap.mp hname
      rcases of_uniqueName?_eq_some ht with rfl | rfl
      · rwa [hcount, hredirect]
      · rwa [hcount, hexplanation]
    · rw [List.count_eq_zero_of_not_mem hname]
      exact Nat.zero_le 1

/-- Words that are read spell a term each, and the names of unique modifiers are distinct and new. -/
lemma forall₂_of_readTerms {seen words : List Text} {ts : List Term} (h : readTerms seen words = .ok ts) :
    List.Forall₂ (fun word t => readTerm word = .ok t) words ts ∧ (ts.filterMap uniqueName?).Nodup ∧
      ∀ name ∈ ts.filterMap uniqueName?, name ∉ seen := by
  -- each unique modifier adds to the names seen, so the induction is for all of them
  induction words generalizing seen ts with
  | nil =>
    obtain rfl := Except.ok.inj h
    exact ⟨.nil, List.nodup_nil, fun _ hname => absurd hname List.not_mem_nil⟩
  | cons word words ih =>
    rw [readTerms] at h
    obtain ⟨t, ht, h⟩ := exists_of_bind_eq_ok h
    split at h
    · next name hname =>
      split at h
      · cases h
      · next hseen =>
        obtain ⟨ts, hts, h⟩ := exists_of_bind_eq_ok h
        obtain rfl := Except.ok.inj h
        obtain ⟨hwords, hnodup, hnew⟩ := ih hts
        rw [List.filterMap_cons_some hname, List.nodup_cons]
        refine ⟨.cons ht hwords, ⟨fun hmem => hnew name hmem List.mem_cons_self, hnodup⟩, ?_⟩
        rintro n (_ | ⟨_, hn⟩)
        · simpa using hseen
        · exact fun hmem => hnew n hn (List.mem_cons_of_mem _ hmem)
    · next hname =>
      obtain ⟨ts, hts, h⟩ := exists_of_bind_eq_ok h
      obtain rfl := Except.ok.inj h
      obtain ⟨hwords, hunique⟩ := ih hts
      rw [List.filterMap_cons_none hname]
      exact ⟨.cons ht hwords, hunique⟩

/-- Terms that are read from unbroken words are well formed. -/
lemma wellFormed_of_forall₂ {words : List Text} {ts : List Term}
    (h : List.Forall₂ (fun word t => readTerm word = .ok t) words ts) (hwords : ∀ word ∈ words, word.Unbroken) :
    ∀ t ∈ ts, t.WellFormed := by
  induction h with
  | nil => exact nofun
  | cons ht _ ih =>
    rintro t (_ | ⟨_, hmem⟩)
    · exact wellFormed_of_readTerm ht (hwords _ List.mem_cons_self)
    · exact ih (fun word hword => hwords word (List.mem_cons_of_mem _ hword)) t hmem

/-- A policy that is read is well formed. -/
theorem wellFormed_of_parse {p : Policy} (h : parse t = .ok p) : p.WellFormed := by
  rw [parse] at h
  split at h
  · next first words hwords =>
    split at h
    · obtain ⟨ts, hts, rfl⟩ := exists_of_map_eq_ok h
      obtain ⟨hall, hnodup, -⟩ := forall₂_of_readTerms hts
      obtain ⟨hredirect, hexplanation⟩ := nodup_filterMap_uniqueName?.mp hnodup
      refine ⟨wellFormed_of_forall₂ hall fun word hword c hc => ?_, hredirect, hexplanation⟩
      have hmem : word ∈ Text.words Text.isAsciiBlank t := hwords ▸ List.mem_cons_of_mem first hword
      exact Text.of_mem_words hmem hc
    · cases h
  · cases h

end Policy

end SenderPolicy
