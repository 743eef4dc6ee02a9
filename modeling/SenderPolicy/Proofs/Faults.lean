import SenderPolicy.Proofs.Reading

/-!
# Errors of terms

Each reader of a part of a policy fails only with errors about a term. That a text is no policy at all, and that there
is more than one, is said elsewhere: the first by `parse` itself, of the first word (`isOfTerm_of_parse`), the second
before any text is read.
-/

namespace SenderPolicy

/-- The error is about a term: neither about the version, nor about the number of policies. -/
def PolicyError.isOfTerm : PolicyError → Bool
  | multipleRecords _ | invalidVersion => false
  | _ => true

namespace Policy

variable {α β : Type} {x : Except PolicyError α} {e : PolicyError} {kind : MechanismKind} {most : Nat}

/-- A reader fails only with errors of terms. -/
def FaultsTerm (x : Except PolicyError α) : Prop :=
  ∀ e, x = .error e → e.isOfTerm = true

/-- A reader that succeeds has no errors. -/
lemma faultsTerm_ok (a : α) : FaultsTerm (.ok a) := by
  rintro e ⟨⟩

/-- A reader that fails with an error about a term fails with no other. -/
lemma faultsTerm_error (h : e.isOfTerm = true) : FaultsTerm (.error e : Except PolicyError α) := by
  rintro _ ⟨⟩
  exact h

/-- Two readers in a row fail with errors about terms if each of them does. -/
lemma FaultsTerm.bind {f : α → Except PolicyError β} (hx : FaultsTerm x) (hf : ∀ a, FaultsTerm (f a)) :
    FaultsTerm (x >>= f) := by
  cases x with
  | error e => exact faultsTerm_error (hx e rfl)
  | ok a => exact hf a

/-- What is made of the value that was read adds no errors. -/
lemma FaultsTerm.map {f : α → β} (hx : FaultsTerm x) : FaultsTerm (x.map f) := by
  cases x with
  | error e => exact faultsTerm_error (hx e rfl)
  | ok a => exact faultsTerm_ok (f a)

/-- A part that may be missing is read with errors about terms if it is so when it is there. -/
lemma FaultsTerm.mapM {f : β → Except PolicyError α} (hf : ∀ b, FaultsTerm (f b)) (b : Option β) :
    FaultsTerm (b.mapM f) := by
  cases b with
  | none => exact faultsTerm_ok none
  | some b => exact (hf b).bind fun a => faultsTerm_ok (some a)

/-! ## Readers -/

/-- A target is refused for its length or for what it holds, both of them faults of the term. -/
lemma checkTarget_faultsTerm (owner target : Text) : FaultsTerm (checkTarget owner target) := by
  simp only [checkTarget]
  split
  · exact faultsTerm_error rfl
  split
  · exact faultsTerm_error rfl
  split
  · exact faultsTerm_ok ()
  split
  · exact faultsTerm_error rfl
  split
  · exact faultsTerm_error rfl
  · exact faultsTerm_ok ()

/-- A target that may be left out is refused as the term's own. -/
lemma optionalTarget_faultsTerm (rest : Text) : FaultsTerm (optionalTarget kind rest) := by
  rw [optionalTarget.eq_def]
  split
  · exact faultsTerm_ok none
  · exact (checkTarget_faultsTerm _ _).map
  · exact faultsTerm_error rfl

/-- A target that is missing is a fault of the term as well. -/
lemma requiredTarget_faultsTerm (rest : Text) : FaultsTerm (requiredTarget kind rest) := by
  refine (optionalTarget_faultsTerm rest).bind fun target => ?_
  cases target with
  | none => exact faultsTerm_error rfl
  | some t => exact faultsTerm_ok t

/-- A length that is no numeral, or too great, is a fault of the term. -/
lemma readLength_faultsTerm (t : Text) : FaultsTerm (readLength most t) := by
  rw [readLength]
  split
  · exact faultsTerm_error rfl
  · split
    · exact faultsTerm_ok _
    · exact faultsTerm_error rfl

/-- Of two lengths, either may be at fault. -/
lemma readLengths_faultsTerm (t : Text) : FaultsTerm (readLengths t) :=
  (FaultsTerm.mapM readLength_faultsTerm _).bind fun _ =>
    (FaultsTerm.mapM readLength_faultsTerm _).bind fun _ => faultsTerm_ok _

/-- A network is refused with the error of its family, or for its length. -/
lemma readNetwork_faultsTerm {ofText? : Text → Option α} {invalid : Text → PolicyError}
    (hinvalid : ∀ value, (invalid value).isOfTerm = true) (rest : Text) :
    FaultsTerm (readNetwork ofText? most invalid rest) := by
  rw [readNetwork.eq_def]
  split
  · simp only
    split
    · exact (FaultsTerm.mapM readLength_faultsTerm _).bind fun _ => faultsTerm_ok _
    · exact faultsTerm_error (hinvalid _)
  · exact faultsTerm_error (hinvalid _)

/-- The readers of the mechanisms fail with errors about terms, kind by kind. -/
lemma readMechanism_faultsTerm (rest : Text) : FaultsTerm (readMechanism kind rest) := by
  cases kind with
  | all =>
    rw [readMechanism]
    split
    · exact faultsTerm_ok _
    · exact faultsTerm_error rfl
  | includes => exact (requiredTarget_faultsTerm rest).map
  | existing => exact (requiredTarget_faultsTerm rest).map
  | a =>
    exact (readLengths_faultsTerm rest).bind fun _ => (optionalTarget_faultsTerm _).bind fun _ => faultsTerm_ok _
  | mx =>
    exact (readLengths_faultsTerm rest).bind fun _ => (optionalTarget_faultsTerm _).bind fun _ => faultsTerm_ok _
  | ptr => exact (optionalTarget_faultsTerm rest).map
  | ip4 => exact (readNetwork_faultsTerm (fun _ => rfl) rest).bind fun _ => faultsTerm_ok _
  | ip6 => exact (readNetwork_faultsTerm (fun _ => rfl) rest).bind fun _ => faultsTerm_ok _

/-- Only targets of the modifiers that are known can be at fault. -/
lemma readModifier_faultsTerm (name value : Text) : FaultsTerm (readModifier name value) := by
  simp only [readModifier]
  split
  · exact faultsTerm_error rfl
  split
  · exact (checkTarget_faultsTerm _ _).bind fun _ => faultsTerm_ok _
  split
  · exact (checkTarget_faultsTerm _ _).bind fun _ => faultsTerm_ok _
  split
  · exact faultsTerm_ok _
  · exact faultsTerm_error rfl

/-- A word is refused as a mechanism, as a modifier, or because it names neither. -/
lemma readTerm_faultsTerm (word : Text) : FaultsTerm (readTerm word) := by
  simp only [readTerm]
  split
  · split
    · exact faultsTerm_error rfl
    · exact (readModifier_faultsTerm _ _).bind fun _ => faultsTerm_ok _
  · split
    · exact (readMechanism_faultsTerm _).bind fun _ => faultsTerm_ok _
    · exact faultsTerm_error rfl

/-- Reading terms fails only with errors of terms. -/
theorem readTerms_faultsTerm (seen words : List Text) : FaultsTerm (readTerms seen words) := by
  induction words generalizing seen with
  | nil => exact faultsTerm_ok []
  | cons word words ih =>
    rw [readTerms]
    refine (readTerm_faultsTerm word).bind fun term => ?_
    split
    · next name _ =>
      split
      · exact faultsTerm_error rfl
      · exact (ih (name :: seen)).bind fun _ => faultsTerm_ok _
    · exact (ih seen).bind fun _ => faultsTerm_ok _

/-- Apart from the version, only terms make a text no policy. -/
theorem isOfTerm_of_parse {t : Text} (h : parse t = .error e) (hne : e ≠ .invalidVersion) : e.isOfTerm = true := by
  rw [parse] at h
  split at h
  · split at h
    · exact (readTerms_faultsTerm [] _).map e h
    · exact absurd (Except.error.inj h).symm hne
  · exact absurd (Except.error.inj h).symm hne

end Policy

end SenderPolicy
