import SenderPolicy.Checking
import SenderPolicy.Proofs.Explanations
import SenderPolicy.Proofs.Lockstep

/-!
# What makes no difference

Two ways in which resolvers may differ without making a difference to evaluations. Whether a name does not exist or has
no records is the same to them: not even the queries that follow tell (`evaluate_withoutAbsence`). And the order in
which answers list their records does not change the decision or the counters, even if it changes from answer to answer
(`evaluate_rearranged`); it may change which text explains a failure.
-/

namespace SenderPolicy

variable {σ τ : Type}

/-! ## Names that do not exist -/

/-- The resolver that gives an empty answer where another one answers that a name does not exist. -/
def Resolver.withoutAbsence (R : Resolver σ) : Resolver σ where
  ask q state :=
    match R.ask q state with
    | (.error .noSuchDomain, next) => (.ok [], next)
    | (answer, next) => (answer, next)

/-- An empty answer tells the same as that a name does not exist, and the state does not tell them apart. -/
lemma Resolver.ask_withoutAbsence (R : Resolver σ) (q : Query) (state : σ) :
    Akin Eq (R.ask q state).1 (R.withoutAbsence.ask q state).1 ∧
      (R.ask q state).2 = (R.withoutAbsence.ask q state).2 := by
  dsimp only [withoutAbsence]
  rcases R.ask q state with ⟨answer, next⟩
  cases answer with
  | ok l => exact ⟨.refl (fun _ => rfl) _, rfl⟩
  | error e =>
    cases e with
    | noSuchDomain => exact ⟨.absent, rfl⟩
    | timeout | serverFailure | refused | other reason => exact ⟨.failed _, rfl⟩

/-- The answers tell the same, and the resolvers go on in step. -/
lemma lockstep.matches_ask_withoutAbsence (R : Resolver σ) (q : Query) :
    Probe.Matches (lockstep Eq) (Akin Eq) (Probe.ask R q) (Probe.ask R.withoutAbsence q) := by
  refine ⟨?_, ?_, False.elim⟩
  · rintro s₁ s₂ ⟨hresolver, -, -⟩
    rw [Session.runFrom_ask, Session.runFrom_ask, hresolver]
    exact (R.ask_withoutAbsence q s₂.resolver).1
  · rintro s₁ s₂ ⟨hresolver, hbudget, hjournal⟩
    refine ⟨?_, hbudget, congrArg (_ :: ·) hjournal⟩
    show (R.ask q s₁.resolver).2 = (R.withoutAbsence.ask q s₂.resolver).2
    rw [hresolver]
    exact (R.ask_withoutAbsence q s₂.resolver).2

namespace Engine

/-- A name that does not exist is as good as one without records: an evaluation ends alike, after the same events, with
the resolver in the same state. -/
theorem evaluate_withoutAbsence (E : Engine σ) (r : Request) (s : Session σ) :
    let E' : Engine σ := { E with resolver := E.resolver.withoutAbsence }
    (E'.evaluate r).runFrom s = (E.evaluate r).runFrom s := by
  intro E'
  have hC : (lockstep Eq).Inseparable E.resolver E'.resolver := lockstep.inseparable E.resolver E'.resolver
  have hask := lockstep.matches_ask_withoutAbsence E.resolver
  have hstart : (lockstep Eq).together s s := ⟨rfl, rfl, rfl⟩
  obtain ⟨hresult, htogether⟩ := (evaluate_of_inseparable hC hask rfl rfl hstart r).result_eq hC.not_parted
  exact Prod.ext hresult.symm (lockstep.eq_of_together htogether).symm

end Engine

/-! ## Records in another order -/

/-- Answers that list the same records, perhaps in another order, or fail alike. -/
inductive Answer.Rearranged {q : Query} : Answer q → Answer q → Prop where
  | listed {l m} : q.Rearranged l m → Rearranged (.ok l) (.ok m)
  | failed (e : DnsError) : Rearranged (.error e) (.error e)

/-- The resolver gives fixed answers, but may list the records of an answer in another order each time. -/
def Resolver.Rearranges (R : Resolver σ) (answers : (q : Query) → Answer q) : Prop :=
  ∀ q state, (R.ask q state).1.Rearranged (answers q)

/-- Two lists of the records of a third one in other orders have the same records. -/
lemma Query.Rearranged.trans_symm {q : Query} {l l' m : List q.Value} (h : q.Rearranged l m) (h' : q.Rearranged l' m) :
    q.Rearranged l l' := by
  cases q with
  | ptr address => exact Eq.trans h (Eq.symm h')
  | txt name | a name | aaaa name | mx name => exact List.Perm.trans h (List.Perm.symm h')

/-- Two orders of one answer tell the same. -/
lemma Answer.Rearranged.akin {q : Query} {a b answer : Answer q} (ha : a.Rearranged answer) (hb : b.Rearranged answer) :
    Akin q.Rearranged a b := by
  cases ha with
  | listed h =>
    cases hb with
    | listed h' => exact .found (h.trans_symm h')
  | failed e =>
    cases hb with
    | failed => exact .failed e

namespace Engine

/-- The order in which records are listed does not matter: evaluations over the same answers have the same verdict or
the same failure, and leave the same counters. -/
theorem evaluate_rearranged {E₁ : Engine σ} {E₂ : Engine τ} {answers : (q : Query) → Answer q}
    (h₁ : E₁.resolver.Rearranges answers) (h₂ : E₂.resolver.Rearranges answers) (hoptions : E₁.options = E₂.options)
    (hnow : E₁.now = E₂.now) (r : Request) (a : σ) (b : τ) :
    let first := (E₁.evaluate r).runFrom (E₁.fresh a)
    let second := (E₂.evaluate r).runFrom (E₂.fresh b)
    first.1.map Evaluation.verdict = second.1.map Evaluation.verdict ∧
      first.2.budget.lookups = second.2.budget.lookups ∧ first.2.budget.voids = second.2.budget.voids := by
  intro first second
  have hC := Correspondence.inseparable_sameBudget E₁.resolver E₂.resolver
  have hagree : AgreeUpToOrder (Correspondence.sameBudget σ τ) E₁ E₂ :=
    agreeUpToOrder_of_inseparable hC
      (fun q => ⟨fun {s₁ s₂} _ => (h₁ q s₁.resolver).akin (h₂ q s₂.resolver), fun h => h, False.elim⟩) hoptions hnow
  have hstart : (Correspondence.sameBudget σ τ).together (E₁.fresh a) (E₂.fresh b) := by
    rw [fresh, fresh, hoptions]
    rfl
  have hends : Matched (Correspondence.sameBudget σ τ) (Alike fun _ _ => True) first second :=
    hagree.evaluateWith hC (fun _ => trivial) hstart fun p r' _ =>
      (explain_asks p r').matches_sameBudget (explain_asks p r')
  obtain ⟨hverdict, hbudget⟩ := hends.verdict_eq hC.not_parted
  exact ⟨hverdict, congrArg Budget.lookups hbudget, congrArg Budget.voids hbudget⟩

end Engine

/-- An answer lists its own records. -/
lemma Answer.Rearranged.refl {q : Query} : ∀ answer : Answer q, answer.Rearranged answer
  | .ok l => .listed (.refl q l)
  | .error e => .failed e

/-- A resolver for fixed answers gives those answers. -/
lemma Resolver.rearranges_fixed (answers : (q : Query) → Answer q) : (fixed answers).Rearranges answers :=
  fun q _ => .refl (answers q)

/-- Records in reverse order, except for reverse names. -/
def Query.reversed : (q : Query) → List q.Value → List q.Value
  | .ptr _ => id
  | .txt _ | .a _ | .aaaa _ | .mx _ => List.reverse

/-- Records in reverse order are the same records. -/
lemma Query.rearranged_reversed (q : Query) (l : List q.Value) : q.Rearranged (q.reversed l) l := by
  cases q with
  | ptr address => rfl
  | txt name | a name | aaaa name | mx name => exact List.reverse_perm l

/-- The resolver for fixed answers that lists their records backwards. -/
def Resolver.backwards (answers : (q : Query) → Answer q) : Resolver Unit where
  ask q _ := ((answers q).map q.reversed, ())

/-- A resolver that lists records backwards gives the fixed answers but for their order. -/
lemma Resolver.rearranges_backwards (answers : (q : Query) → Answer q) : (backwards answers).Rearranges answers := by
  intro q state
  dsimp only [backwards]
  cases answers q with
  | ok l => exact .listed (q.rearranged_reversed l)
  | error e => exact .failed e

namespace Engine

/-- A domain with a text that is no policy, an included domain, and exchanges two of which are the same. -/
def severalRecords : (q : Query) → Answer q
  | .txt name =>
    if name = "a.example".toList then .ok ["keep out".toList, "v=spf1 include:b.example mx -all".toList]
    else .ok ["v=spf1 a ?all".toList, "not yet".toList]
  | .mx _ =>
    .ok [⟨20, "m.example".toList⟩, ⟨10, "n.example".toList⟩, ⟨10, "l.example".toList⟩, ⟨10, "n.example".toList⟩]
  | .a name =>
    if name = "l.example".toList then .ok []
    else if name = "m.example".toList then .ok [⟨0xC0000201⟩, ⟨0xC0000202⟩]
    else .ok [⟨0xC0000203⟩, ⟨0xC0000204⟩]
  | _ => .error .noSuchDomain

/-- Whichever way the records are listed, the client passes at the last exchange, after seven lookups and one empty
answer. -/
theorem evaluate_rearranged_backwards :
    let E₁ : Engine Unit := ⟨.fixed severalRecords, {}, 0⟩
    let E₂ : Engine Unit := ⟨.backwards severalRecords, {}, 0⟩
    let r : Request := ⟨"u@a.example".toList, "a.example".toList, .v4 ⟨0xC0000201⟩, "a.example".toList, 0⟩
    E₁.resolver.Rearranges severalRecords ∧ E₂.resolver.Rearranges severalRecords ∧
      ((E₂.evaluate r).runFrom (E₂.fresh ())).1.map Evaluation.verdict = .ok .pass ∧
      ((E₂.evaluate r).runFrom (E₂.fresh ())).2.budget.lookups = 7 ∧
      ((E₂.evaluate r).runFrom (E₂.fresh ())).2.budget.voids = 1 := by
  intro E₁ E₂ r
  have h₁ : E₁.resolver.Rearranges severalRecords := Resolver.rearranges_fixed severalRecords
  have h₂ : E₂.resolver.Rearranges severalRecords := Resolver.rearranges_backwards severalRecords
  have hfirst : ((E₁.evaluate r).runFrom (E₁.fresh ())).1.map Evaluation.verdict = .ok .pass ∧
      ((E₁.evaluate r).runFrom (E₁.fresh ())).2.budget.lookups = 7 ∧
      ((E₁.evaluate r).runFrom (E₁.fresh ())).2.budget.voids = 1 := by
    decide +kernel
  obtain ⟨hverdict, hlookups, hvoids⟩ := evaluate_rearranged h₁ h₂ rfl rfl r () ()
  rw [hverdict, hlookups, hvoids] at hfirst
  exact ⟨h₁, h₂, hfirst⟩

end Engine

end SenderPolicy
