import SenderPolicy.Proofs.Endings
import SenderPolicy.Proofs.Explanations
import SenderPolicy.Proofs.Lockstep
import SenderPolicy.Proofs.NoPolicy

/-!
# What an outcome shows

The parts of an outcome belong together, whatever was asked and however the resolver answered (`answer_isCoherent`): a
failure stands beside the verdict it has, and an explanation beside a failure of the client only. A query is invalid if
it was turned down, and then the resolver was never asked. The first thing that a check of any other query does is to
ask for the policy, because the normal form of a domain is a name that the evaluation admits.
-/

namespace SenderPolicy

variable {σ : Type}

/-- The verdict, the explanation and the failure of an outcome belong together. -/
structure Outcome.IsCoherent (o : Outcome) : Prop where
  failure_iff : o.failure ≠ none ↔ o.verdict.isError = true
  verdict_eq : ∀ f, o.failure = some f → o.verdict = f.verdict
  explains : o.explanation ≠ none → o.verdict = .fail

/-- A domain without a normal form is turned down. -/
lemma DomainName.verdict_of_normalize {domain : Text} {f : Failure} (h : normalize domain = .error f) :
    f.verdict = .invalid := by
  simp only [normalize] at h
  split at h
  · obtain rfl := Except.error.inj h
    rfl
  · split at h
    · obtain rfl := Except.error.inj h
      rfl
    · split at h
      · obtain rfl := Except.error.inj h
        rfl
      · cases h

namespace Engine

variable {E : Engine σ}

/-- The outcome of a query that is turned down shows why, and no explanation. -/
lemma rejected_isCoherent (sender : Text) (client : Option Address) (f : Failure) :
    (Outcome.rejected sender client f).IsCoherent where
  failure_iff := iff_of_true nofun f.isError_verdict
  verdict_eq g hg := by
    obtain rfl := Option.some.inj hg
    rfl
  explains h := absurd rfl h

/-- The outcome of an evaluation belongs together if the evaluation explains nothing but a failure. -/
lemma conclude_isCoherent {r : Request} {x : Except Failure Evaluation} {s : Session σ}
    (hvalue : ∀ e, x = .ok e → e.verdict.isError = false ∧ ExplainsFailure e) : (conclude r x s).IsCoherent := by
  cases x with
  | ok e =>
    obtain ⟨hverdict, hexplains⟩ := hvalue e rfl
    have hnot : ¬(conclude r (.ok e) s).verdict.isError = true := Bool.eq_false_iff.mp hverdict
    exact ⟨iff_of_false (fun h => h rfl) hnot, nofun, hexplains⟩
  | error f =>
    refine ⟨iff_of_true nofun f.isError_verdict, fun g hg => ?_, fun h => absurd rfl h⟩
    obtain rfl := Option.some.inj hg
    rfl

/-- The outcome of an evaluation is coherent, and turns nothing down. -/
lemma conclude_evaluate (r : Request) (s : Session σ) :
    let ending := (E.evaluate r).runFrom s
    (conclude r ending.1 ending.2).IsCoherent ∧ (conclude r ending.1 ending.2).verdict ≠ .invalid := by
  intro ending
  obtain ⟨t, ht⟩ := evaluate_endsWell (E := E) r s
  have hexplains := nest_explainsFailure (E := E) E.explain s.budget.remaining r s
  refine ⟨conclude_isCoherent fun e he => ⟨ht.value he, hexplains e he⟩, ?_⟩
  cases hx : ending.1 with
  | ok e => exact (Verdict.ne_of_isError (ht.value hx)).1
  | error f => exact Failure.verdict_ne_invalid (ht.expected hx)

/-- A check of a sender turns the query down without asking, or evaluates it and asks. -/
lemma check_isCoherent (sender : Text) (client : Address) (helo : Option Text) (state : σ) :
    (E.check sender client helo state).1.IsCoherent ∧
      ((E.check sender client helo state).1.verdict = .invalid ↔ (E.check sender client helo state).2.queries = []) := by
  rw [check]
  cases hnormal : DomainName.normalize (Mailbox.ofSender sender).domain with
  | error f => exact ⟨rejected_isCoherent _ _ _, iff_of_true (DomainName.verdict_of_normalize hnormal) rfl⟩
  | ok domain =>
    let r := E.request (Mailbox.ofSender sender).localPart domain client.canonical helo
    have hvalid : DomainName.isValid r.domain = true := DomainName.isValid_of_normalize hnormal
    obtain ⟨hcoherent, hverdict⟩ := conclude_evaluate (E := E) r (E.fresh state)
    obtain ⟨rest, hqueries, -⟩ := evaluate_queries_of_isValid r (Nat.zero_le _) hvalid (E.fresh state)
    refine ⟨hcoherent, iff_of_false hverdict ?_⟩
    show ((E.evaluate r).runFrom (E.fresh state)).2.queries ≠ []
    rw [hqueries]
    exact List.append_ne_nil_of_right_ne_nil _ (List.cons_ne_nil _ _)

/-- Whatever is asked about a sender, there is a failure exactly for a verdict that reports one, and it has that
verdict; only a failure of the client is explained; and an inquiry is invalid exactly if it sent no query at all. -/
theorem answer_isCoherent (E : Engine σ) (state : σ) (i : Inquiry) :
    let o := (E.answer state i).1
    let s := (E.answer state i).2
    (o.failure ≠ none ↔ o.verdict.isError = true) ∧ (∀ f, o.failure = some f → o.verdict = f.verdict) ∧
      (o.explanation ≠ none → o.verdict = .fail) ∧ (o.verdict = .invalid ↔ s.queries = []) := by
  intro o s
  have hanswer : o.IsCoherent ∧ (o.verdict = .invalid ↔ s.queries = []) := by
    cases i with
    | address sender client helo =>
      simp only [o, s, answer]
      exact check_isCoherent sender client helo state
    | text sender address =>
      simp only [o, s, answer, checkText]
      split
      · exact check_isCoherent sender _ none state
      · exact ⟨rejected_isCoherent _ _ _, iff_of_true rfl rfl⟩
  obtain ⟨⟨hfailure, hverdict, hexplains⟩, hinvalid⟩ := hanswer
  exact ⟨hfailure, hverdict, hexplains, hinvalid⟩

end Engine

end SenderPolicy
