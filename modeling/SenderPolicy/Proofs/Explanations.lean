import SenderPolicy.Proofs.Agreement
import SenderPolicy.Proofs.Spending

/-!
# Explanations

What explaining failures adds to an evaluation, over a resolver whose answers do not change: nothing to the decision,
the failures and the counters, because explanations only send queries. And nothing but a failure is explained
(`evaluate_explained`).
-/

namespace SenderPolicy

variable {σ τ α β : Type}

/-- The answers of the resolver do not depend on its state. -/
def Resolver.IsSteady (R : Resolver σ) : Prop :=
  ∀ q a b, (R.ask q a).1 = (R.ask q b).1

namespace Engine

/-! ## The budget -/

/-- Queries leave the budget alone. -/
lemma Asks.budget_eq {E : Engine σ} {n : Nat} {p : Probe σ α} (hp : E.Asks n p) (s : Session σ) :
    (p.runFrom s).2.budget = s.budget := by
  obtain ⟨qs, -, hs⟩ := hp s
  rw [hs]
  clear hs
  induction qs with
  | nil => rfl
  | cons q qs ih => exact ih

/-- Probes leave the budget alone, whatever each of them asks. -/
lemma Asks.matches_sameBudget {E₁ : Engine σ} {E₂ : Engine τ} {m n : Nat} {p₁ : Probe σ α} {p₂ : Probe τ β}
    (h₁ : E₁.Asks m p₁) (h₂ : E₂.Asks n p₂) :
    Probe.Matches (Correspondence.sameBudget σ τ) (fun _ _ => True) p₁ p₂ where
  value _ := trivial
  together {s₁ s₂} h := (h₁.budget_eq s₁).trans (h.trans (h₂.budget_eq s₂).symm)
  parted := False.elim

end Engine

/-! ## What is explained -/

/-- Every value that the check may end with is as it should be. -/
def Check.Yields (V : α → Prop) (c : Check σ α) : Prop :=
  ∀ s a, (c.runFrom s).1 = .ok a → V a

namespace Check.Yields

variable {V : α → Prop} {W : β → Prop}

/-- To end with a value as it should be yields such values. -/
lemma pure {a : α} (h : V a) : Yields V (Pure.pure a : Check σ α) := by
  rintro s a' ⟨⟩
  exact h

/-- To fail yields no value at all. -/
lemma throw (f : Failure) : Yields V (MonadExcept.throw f : Check σ α) :=
  nofun

/-- Checks in a row yield what the last one does, given what the first one yields. -/
lemma bind {c : Check σ α} {k : α → Check σ β} (hc : Yields V c) (hk : ∀ a, V a → Yields W (k a)) :
    Yields W (c >>= k) := by
  intro s b hb
  rcases hrun : c.runFrom s with ⟨x, s'⟩
  cases x with
  | error f =>
    rw [runFrom_bind_error hrun] at hb
    cases hb
  | ok a =>
    rw [runFrom_bind_ok hrun] at hb
    exact hk a (hc s a (by rw [hrun])) s' b hb

/-- What the first part ends with does not matter. -/
lemma bind_any {c : Check σ α} {k : α → Check σ β} (hk : ∀ a, Yields W (k a)) : Yields W (c >>= k) :=
  bind (V := fun _ => True) (fun _ _ _ => trivial) fun a _ => hk a

end Check.Yields

namespace Engine

open Check (Yields)

variable {E : Engine σ}

/-- Only a failure has an explanation. -/
def ExplainsFailure (e : Evaluation) : Prop :=
  e.explanation ≠ none → e.verdict = .fail

/-- A level explains nothing but a failure if the levels nested in it do. -/
lemma level_explainsFailure {explainer : Explainer σ} {nested : Request → Check σ Evaluation}
    (hnested : ∀ r, Yields ExplainsFailure (nested r)) (r : Request) :
    Yields ExplainsFailure (E.level explainer nested r) := by
  have hnone : ∀ v, ExplainsFailure ⟨v, none⟩ := fun _ h => absurd rfl h
  rw [level_eq]
  refine .bind_any fun _ => .bind_any fun _ => ?_
  rw [admitted]
  split
  · exact .pure (hnone _)
  · refine .bind_any fun policy => ?_
    cases policy with
    | none => exact .pure (hnone _)
    | some p =>
      refine .bind_any fun found => ?_
      split
      · next d =>
        split
        · next hfail => exact .bind_any fun _ => .pure fun _ => by rw [hfail]; rfl
        · exact .bind (V := (· = none)) (.pure rfl) fun x hx => .pure (hx ▸ hnone _)
      · split
        · refine .bind_any fun _ => .bind_any fun domain => .bind (hnested _) fun e he => ?_
          split
          · exact .bind_any fun _ => .pure he
          · exact .pure he
        · exact .pure (hnone _)

/-- Levels explain nothing but a failure, however deep they may nest. -/
lemma nest_explainsFailure (explainer : Explainer σ) (n : Nat) (r : Request) :
    Yields ExplainsFailure (E.nest explainer n r) := by
  induction n generalizing r with
  | zero => exact level_explainsFailure (fun _ => .bind_any fun _ => .throw _) r
  | succ n ih => exact level_explainsFailure ih r

/-! ## The decision -/

/-- Engines over one resolver with fixed answers agree, whatever state it is in. -/
lemma agreeUpToOrder_of_isSteady (hE : E.resolver.IsSteady) : AgreeUpToOrder (Correspondence.sameBudget σ σ) E E := by
  refine agreeUpToOrder_of_inseparable (Correspondence.inseparable_sameBudget _ _) (fun q => ?_) rfl rfl
  exact ⟨fun {s₁ s₂} _ => .of_answer_eq (hE q s₁.resolver s₂.resolver), fun h => h, False.elim⟩

/-- The silent explainer sends no query. -/
lemma silent_asks (p : Policy) (r : Request) : E.Asks 0 (silent p r) :=
  asks_pure none

/-- Explanations have no part in the decision: with or without them an evaluation has the same verdict or the same
failure, and leaves the same counters. And nothing but a failure is explained. -/
theorem evaluate_explained (E : Engine σ) (hE : E.resolver.IsSteady) (r : Request) (s : Session σ) :
    let explained := (E.evaluate r).runFrom s
    let unexplained := (E.evaluateWith silent r).runFrom s
    explained.1.map Evaluation.verdict = unexplained.1.map Evaluation.verdict ∧
      explained.2.budget.lookups = unexplained.2.budget.lookups ∧
      explained.2.budget.voids = unexplained.2.budget.voids ∧
      ∀ e, explained.1 = .ok e → e.explanation ≠ none → e.verdict = .fail := by
  intro explained unexplained
  have hC := Correspondence.inseparable_sameBudget E.resolver E.resolver
  have hends : Matched (Correspondence.sameBudget σ σ) (Alike fun _ _ => True) explained unexplained :=
    (agreeUpToOrder_of_isSteady hE).evaluateWith hC (fun _ => trivial) rfl fun p r' _ =>
      (explain_asks p r').matches_sameBudget (silent_asks (E := E) p r')
  obtain ⟨hverdict, hbudget⟩ := hends.verdict_eq hC.not_parted
  refine ⟨hverdict, congrArg Budget.lookups hbudget, congrArg Budget.voids hbudget, fun e he => ?_⟩
  exact nest_explainsFailure E.explain s.budget.remaining r s e he

/-- A domain and one that it includes fail everyone, and explain themselves at a domain that the client's name is part
of. -/
def explainedTwice : (q : Query) → Answer q
  | .txt name =>
    if name = "a.example".toList then .ok ["v=spf1 include:b.example a -all exp=%{p}.example".toList]
    else if name = "b.example".toList then .ok ["v=spf1 -all exp=%{p}.b.example".toList]
    else .ok ["%{i} is not one of %{d}".toList]
  | _ => .error .noSuchDomain

/-- An evaluation with two explanations, one of them for nobody, fails as without any, and leaves the same counters
after four more queries. -/
theorem evaluate_explained_twice :
    let E : Engine Nat := ⟨⟨fun q sent => (explainedTwice q, sent + 1)⟩, {}, 0⟩
    let r : Request := ⟨"u@a.example".toList, "a.example".toList, .v4 ⟨0x7F000001⟩, "a.example".toList, 0⟩
    let s : Session Nat := .start (.fresh 10 2) 0
    E.resolver.IsSteady ∧
      ((E.evaluate r).runFrom s).1 = .ok ⟨.fail, some "127.0.0.1 is not one of a.example".toList⟩ ∧
      ((E.evaluateWith silent r).runFrom s).1.map Evaluation.verdict = .ok .fail ∧
      ((E.evaluateWith silent r).runFrom s).2.budget.lookups = 2 ∧
      ((E.evaluateWith silent r).runFrom s).2.budget.voids = 1 ∧
      ((E.evaluate r).runFrom s).2.resolver = ((E.evaluateWith silent r).runFrom s).2.resolver + 4 := by
  intro E r s
  have hE : E.resolver.IsSteady := fun _ _ _ => rfl
  have hend : ((E.evaluate r).runFrom s).1 = .ok ⟨.fail, some "127.0.0.1 is not one of a.example".toList⟩ := by
    decide +kernel
  have hcounters : ((E.evaluate r).runFrom s).2.budget.lookups = 2 ∧ ((E.evaluate r).runFrom s).2.budget.voids = 1 := by
    decide +kernel
  obtain ⟨hverdict, hlookups, hvoids, -⟩ := evaluate_explained E hE r s
  rw [hend] at hverdict
  rw [hlookups, hvoids] at hcounters
  exact ⟨hE, hend, hverdict.symm, hcounters.1, hcounters.2, by decide +kernel⟩

end Engine

end SenderPolicy
