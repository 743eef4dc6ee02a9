import SenderPolicy.Proofs.Lockstep
import SenderPolicy.Proofs.Templates

/-!
# The receiver and the time

Templates of targets must not refer to the receiver, to the time, or to the plain form of the client's address. These
letters are refused when a target is read, wherever it stands, so two transactions that differ in nothing else lead to
the same domains (`Template.expand_domain_eq_of_agreeOnTargets`).

What remains is the text of explanations: an evaluation at another receiver or at another time asks the same queries,
uses up the same budget and ends with the same verdict or failure, and it is explained if the other one is
(`evaluate_atReceiver`).
-/

namespace SenderPolicy

variable {σ : Type}

/-! ## What targets refer to -/

/-- An expression of a target does not stand for what is reserved to explanations. -/
lemma Expression.isReserved_of_parse_domain {body : Text} {e : Expression} (h : parse .domain body = .ok e) :
    e.letter.isReserved = false := by
  rw [parse.eq_def] at h
  split at h
  · cases h
  · split at h
    · cases h
    · next letter _ =>
      split at h
      · cases h
      · next hscope =>
        split at h
        · cases h
        · obtain rfl := Except.ok.inj h
          simpa using hscope

/-- The transactions have the same data but for what is reserved to explanations. -/
def Transaction.AgreeOnTargets (x y : Transaction) : Prop :=
  ∀ letter : Letter, letter.isReserved = false → x.value letter = y.value letter

namespace Template

variable {x y : Transaction}

/-- Targets are filled in alike, or refused alike. -/
theorem expand_domain_eq_of_agreeOnTargets (hxy : x.AgreeOnTargets y) (t : Text) :
    expand .domain x t = expand .domain y t := by
  have heach := eachExpression_parse (fun _ _ h => Expression.isReserved_of_parse_domain h) t
  rw [expand, expand]
  cases hread : parse .domain t with
  | error e => rfl
  | ok p => exact congrArg Except.ok (render_congr fun e he => hxy e.letter (heach p hread e he))

/-- Whether a text is a template does not depend on what is filled in. -/
lemma isSome_toOption_expand (scope : Scope) (x y : Transaction) (t : Text) :
    (expand scope x t).toOption.isSome = (expand scope y t).toOption.isSome := by
  rw [expand, expand]
  cases parse scope t with
  | error e => rfl
  | ok p => rfl

end Template

/-! ## Evaluations -/

namespace Engine

/-- The engine of another receiver, at another time. -/
def atReceiver (E : Engine σ) (receiver : Option Text) (now : Nat) : Engine σ where
  resolver := E.resolver
  options := { E.options with receiver := receiver }
  now := now

variable (E : Engine σ) (receiver : Option Text) (now : Nat)

/-- Transactions at two receivers agree on all that targets refer to. -/
lemma agreeOnTargets_atReceiver (r : Request) (name : Option Text) :
    (E.transaction r name).AgreeOnTargets ((E.atReceiver receiver now).transaction r name) := by
  intro letter hletter
  cases letter with
  | receiver => cases hletter
  | time => cases hletter
  | sender | localPart | senderDomain | domain | address | validatedName | addressFamily | helo | clientAddress => rfl

/-- Both engines ask the same resolver. -/
lemma lockstep_matches_ask (q : Query) :
    Probe.Matches (lockstep Eq) Eq (Probe.ask E.resolver q) (Probe.ask (E.atReceiver receiver now).resolver q) :=
  lockstep.matches_ask ⟨fun _ {_ _} h => h ▸ rfl, fun _ {_ _} h => h ▸ rfl⟩ q

/-- The two engines look everything up alike. -/
lemma agreeUpToOrder_atReceiver : AgreeUpToOrder (lockstep Eq) E (E.atReceiver receiver now) := by
  have hanswers : AnswersAlike (lockstep Eq) E (E.atReceiver receiver now) := by
    refine ⟨fun q _ => (E.lockstep_matches_ask receiver now q).mono .of_answer_eq, rfl, fun r name target => ?_⟩
    exact Template.expand_domain_eq_of_agreeOnTargets (E.agreeOnTargets_atReceiver receiver now r name) target
  refine ⟨hanswers.agreeOnHosts (lockstep.inseparable E.resolver E.resolver) rfl rfl, fun domain => ?_⟩
  exact matches_policyAt ((E.lockstep_matches_ask receiver now (.txt domain)).mono .of_answer_eq)

/-- The receiver's name and the time tell in the text of an explanation only. Whatever the resolver does, an evaluation
at another receiver and at another time ends with the same verdict or the same failure, and is explained if and only if
the other one is. It leaves the same session: the counters, the queries and the state of the resolver. -/
theorem evaluate_atReceiver (r : Request) (s : Session σ) :
    let here := (E.evaluate r).runFrom s
    let there := ((E.atReceiver receiver now).evaluate r).runFrom s
    here.1.map Evaluation.verdict = there.1.map Evaluation.verdict ∧
      here.1.map (·.explanation.isSome) = there.1.map (·.explanation.isSome) ∧
      here.2.budget = there.2.budget ∧ here.2.queries = there.2.queries ∧ here.2 = there.2 := by
  intro here there
  have hC : (lockstep Eq).Inseparable E.resolver (E.atReceiver receiver now).resolver :=
    lockstep.inseparable E.resolver E.resolver
  have hagree := E.agreeUpToOrder_atReceiver receiver now
  let X : Option Text → Option Text → Prop := fun x y => x.isSome = y.isSome
  have hX : ∀ x, X x x := fun _ => rfl
  have hends : Matched (lockstep Eq) (Alike X) here there := by
    refine hagree.evaluateWith hC hX ⟨rfl, rfl, rfl⟩ fun p r' _ => ?_
    refine hagree.explain hX (fun domain => ?_) p r' fun name text => ?_
    · exact (E.lockstep_matches_ask receiver now (.txt domain)).mono .of_eq
    · exact Template.isSome_toOption_expand .explanation _ _ text
  obtain ⟨hverdict, htogether⟩ := hends.verdict_eq hC.not_parted
  have hsession : here.2 = there.2 := lockstep.eq_of_together htogether
  have hexplained := (hends.map_eq hC.not_parted fun he => he.2).1
  exact ⟨hverdict, hexplained, congrArg Session.budget hsession, congrArg Session.queries hsession, hsession⟩

/-- A domain that fails everyone, and explains by whom and when it was asked. -/
def asksWho : (q : Query) → Answer q
  | .txt name => .ok [if name = "a.example".toList then "v=spf1 -all exp=why.%{d}".toList else "%{r} at %{t}".toList]
  | _ => .error .noSuchDomain

-- the texts themselves may differ
example :
    let E : Engine Unit := ⟨.fixed asksWho, {}, 0⟩
    let r : Request := ⟨"u@a.example".toList, "a.example".toList, .v4 ⟨0x7F000001⟩, "a.example".toList, 0⟩
    let s : Session Unit := .start (.fresh 10 2) ()
    ((E.evaluate r).runFrom s).1 = .ok ⟨.fail, some "unknown at 0".toList⟩ ∧
      (((E.atReceiver (some "mx.example".toList) 7).evaluate r).runFrom s).1 =
        .ok ⟨.fail, some "mx.example at 7".toList⟩ := by
  decide +kernel

end Engine

end SenderPolicy
