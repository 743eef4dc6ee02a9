import SenderPolicy.Proofs.FailedLevels
import SenderPolicy.Proofs.NoPolicy

/-!
# Policies of the same effect

A policy may be written in other words. Modifiers of unknown names say nothing, the others say the same wherever they
stand, and nothing is looked at behind a directive that matches everyone: no directive, and no redirection. Policies
that differ in nothing else have the same effect (`Policy.SameEffect`).

If that is all that tells the answers of two resolvers apart, then evaluations over them send the same queries, use up
the same budget, and end alike (`evaluate_redraft`), whatever names publish such policies and however often they are
included or handed over to. Where a failure asks for an explanation, though, the text that is served has to be the same,
so it must not be that of such a policy.
-/

namespace SenderPolicy

variable {σ : Type}

/-! ## Policies -/

namespace Policy

/-- The directives up to the first one that matches everyone. -/
def decisive : List Directive → List Directive
  | [] => []
  | d :: ds => if d.mechanism = .all then [d] else d :: decisive ds

/-- Policies with the same directives up to the first one that matches everyone, the same explanation, and the same
redirection unless one of the directives matches everyone. -/
structure SameEffect (p q : Policy) : Prop where
  directives : decisive p.directives = decisive q.directives
  explanation : p.explanation? = q.explanation?
  redirect : (∀ d ∈ p.directives, d.mechanism ≠ .all) → p.redirect? = q.redirect?

/-- A policy has the effect that it has. -/
lemma SameEffect.refl (p : Policy) : p.SameEffect p :=
  ⟨rfl, rfl, fun _ => rfl⟩

/-- A directive that matches everyone is among the decisive ones, if there is any. -/
lemma forall_decisive_iff (ds : List Directive) :
    (∀ d ∈ decisive ds, d.mechanism ≠ .all) ↔ ∀ d ∈ ds, d.mechanism ≠ .all := by
  induction ds with
  | nil => rfl
  | cons d ds ih =>
    by_cases hd : d.mechanism = .all
    · rw [decisive, if_pos hd]
      exact iff_of_false (fun h => h d List.mem_cons_self hd) fun h => h d List.mem_cons_self hd
    · rw [decisive, if_neg hd, List.forall_mem_cons, List.forall_mem_cons, ih]

/-- Changes may follow each other. -/
theorem SameEffect.trans {p q r : Policy} (hpq : p.SameEffect q) (hqr : q.SameEffect r) : p.SameEffect r := by
  refine ⟨hpq.directives.trans hqr.directives, hpq.explanation.trans hqr.explanation, fun hp => ?_⟩
  have hq : ∀ d ∈ q.directives, d.mechanism ≠ .all := by
    rwa [← forall_decisive_iff, ← hpq.directives, forall_decisive_iff]
  exact (hpq.redirect hp).trans (hqr.redirect hq)

/-- What stands behind a directive that matches everyone is not decisive. -/
lemma decisive_append {d : Directive} (hd : d.mechanism = .all) (front rest : List Directive) :
    decisive (front ++ d :: rest) = decisive (front ++ [d]) := by
  induction front with
  | nil => rw [List.nil_append, List.nil_append, decisive, decisive, if_pos hd, if_pos hd]
  | cons e front ih => rw [List.cons_append, List.cons_append, decisive, decisive, ih]

/-- Anything may be put behind a directive that matches everyone, and any redirection. -/
theorem SameEffect.of_all {p q : Policy} {d : Directive} {front rest rest' : List Directive} (hd : d.mechanism = .all)
    (hp : p.directives = front ++ d :: rest) (hq : q.directives = front ++ d :: rest')
    (hexplanation : p.explanation? = q.explanation?) : p.SameEffect q := by
  refine ⟨?_, hexplanation, fun hnone => ?_⟩
  · rw [hp, hq, decisive_append hd front rest, decisive_append hd front rest']
  · refine absurd hd (hnone d ?_)
    rw [hp]
    exact List.mem_append_right front List.mem_cons_self

/-- The only one of its kind is found wherever it stands. -/
lemma findSome?_eq_of_perm {α β : Type} {f : α → Option β} {l m : List α}
    (hperm : (l.filterMap f).Perm (m.filterMap f)) (hone : (l.filterMap f).length ≤ 1) :
    l.findSome? f = m.findSome? f := by
  rw [← List.head?_filterMap, ← List.head?_filterMap]
  generalize l.filterMap f = found at hperm hone
  rcases found with _ | ⟨b, _ | ⟨c, found⟩⟩
  · rw [List.nil_perm.mp hperm]
  · rw [List.singleton_perm.mp hperm]
  · exact absurd hone (by simp)

/-- The term redirects or explains; other modifiers say nothing. -/
def isKnownModifier (t : Term) : Bool :=
  t.isRedirect || t.isExplanation

section

variable {f : Term → Option Text} (hf : ∀ t, (f t).isSome = true → isKnownModifier t = true) {p q : Policy}

include hf

/-- Modifiers that are known are found among the known ones. -/
lemma filterMap_filter_isKnownModifier (ts : List Term) : (ts.filter isKnownModifier).filterMap f = ts.filterMap f := by
  rw [List.filterMap_filter]
  refine congrArg (List.filterMap · ts) (funext fun t => ?_)
  by_cases ht : isKnownModifier t = true
  · exact if_pos ht
  · rw [if_neg ht, eq_comm, ← Option.not_isSome_iff_eq_none]
    exact fun hsome => ht (hf t hsome)

/-- A known modifier that stands at most once is found wherever it stands. -/
lemma findSome?_eq_of_modifiers_perm
    (hmodifiers : (p.terms.filter isKnownModifier).Perm (q.terms.filter isKnownModifier))
    (hone : p.terms.countP (fun t => (f t).isSome) ≤ 1) : p.terms.findSome? f = q.terms.findSome? f := by
  refine findSome?_eq_of_perm ?_ ?_
  · rw [← filterMap_filter_isKnownModifier hf p.terms, ← filterMap_filter_isKnownModifier hf q.terms]
    exact hmodifiers.filterMap f
  · rwa [List.length_filterMap_eq_countP]

end

def redirectTarget? : Term → Option Text
  | .modifier (.redirect target) => some target
  | _ => none

def explanationTarget? : Term → Option Text
  | .modifier (.explanation target) => some target
  | _ => none

/-- The terms with a target to hand over to are the redirections. -/
lemma isSome_redirectTarget? (t : Term) : (redirectTarget? t).isSome = t.isRedirect := by
  rcases t with d | m
  · rfl
  · cases m <;> rfl

/-- The terms with a target for explanations are the explanations. -/
lemma isSome_explanationTarget? (t : Term) : (explanationTarget? t).isSome = t.isExplanation := by
  rcases t with d | m
  · rfl
  · cases m <;> rfl

/-- The modifiers of a well-formed policy may be moved anywhere, and unknown ones added or left out. -/
theorem SameEffect.of_modifiers_perm {p q : Policy} (hp : p.WellFormed) (hdirectives : p.directives = q.directives)
    (hmodifiers : (p.terms.filter isKnownModifier).Perm (q.terms.filter isKnownModifier)) : p.SameEffect q := by
  have hredirect : p.terms.findSome? redirectTarget? = q.terms.findSome? redirectTarget? := by
    refine findSome?_eq_of_modifiers_perm (fun t ht => ?_) hmodifiers ?_
    · rw [isKnownModifier, ← isSome_redirectTarget?, ht, Bool.true_or]
    · simpa only [isSome_redirectTarget?] using hp.redirects_le
  have hexplanation : p.terms.findSome? explanationTarget? = q.terms.findSome? explanationTarget? := by
    refine findSome?_eq_of_modifiers_perm (fun t ht => ?_) hmodifiers ?_
    · rw [isKnownModifier, ← isSome_explanationTarget?, ht, Bool.or_true]
    · simpa only [isSome_explanationTarget?] using hp.explanations_le
  exact ⟨congrArg decisive hdirectives, hexplanation, fun _ => hredirect⟩

end Policy

/-! ## One engine -/

namespace Engine

variable {E : Engine σ} {nested : Request → Check σ Evaluation} {r : Request}

/-- A directive that matches everyone is the first to match where it is met. -/
lemma firstMatch_cons_all {d : Directive} (hd : d.mechanism = .all) (ds : List Directive) :
    E.firstMatch nested r (d :: ds) = pure (some d) := by
  rw [firstMatch, hd]
  rfl

/-- Only decisive directives are looked at. -/
lemma firstMatch_decisive (ds : List Directive) :
    E.firstMatch nested r (Policy.decisive ds) = E.firstMatch nested r ds := by
  induction ds with
  | nil => rfl
  | cons d ds ih =>
    by_cases hd : d.mechanism = .all
    · rw [Policy.decisive, if_pos hd, firstMatch_cons_all hd, firstMatch_cons_all hd]
    · rw [Policy.decisive, if_neg hd, firstMatch, firstMatch, ih]

/-- Where a directive matches everyone, what is done without a match does not matter. -/
lemma firstMatch_bind_congr {α : Type} {ds : List Directive} (hall : ∃ d ∈ ds, d.mechanism = .all)
    {k₁ k₂ : Option Directive → Check σ α} (hk : ∀ d, k₁ (some d) = k₂ (some d)) :
    E.firstMatch nested r ds >>= k₁ = E.firstMatch nested r ds >>= k₂ := by
  induction ds with
  | nil =>
    obtain ⟨d, hd, -⟩ := hall
    cases hd
  | cons d ds ih =>
    by_cases hd : d.mechanism = .all
    · rw [firstMatch_cons_all hd, pure_bind, pure_bind, hk]
    · have hrest : ∃ e ∈ ds, e.mechanism = .all := by
        obtain ⟨e, he, hall⟩ := hall
        rcases List.mem_cons.mp he with rfl | he
        · exact absurd hall hd
        · exact ⟨e, he, hall⟩
      rw [firstMatch, bind_assoc, bind_assoc]
      refine congrArg (E.matchesClient nested r d.mechanism >>= ·) (funext fun found => ?_)
      cases found with
      | true => simp [hk]
      | false => simpa using ih hrest

/-- What a policy decides by its effect it decides in any words. -/
lemma decide_of_sameEffect {explainer : Explainer σ} {p q : Policy} (h : p.SameEffect q)
    (hx : explainer p r = explainer q r) : E.decide explainer nested r p = E.decide explainer nested r q := by
  have hmatch : E.firstMatch nested r p.directives = E.firstMatch nested r q.directives := by
    rw [← firstMatch_decisive p.directives, h.directives, firstMatch_decisive]
  by_cases hall : ∃ d ∈ p.directives, d.mechanism = .all
  · rw [decide, decide, ← hmatch, hx]
    exact firstMatch_bind_congr hall fun d => rfl
  · have hredirect : p.redirect? = q.redirect? := h.redirect fun d hd hmechanism => hall ⟨d, hd, hmechanism⟩
    rw [decide, decide, hmatch, hx, hredirect]

end Engine

/-! ## Explanations -/

/-- The first value of an answer, if it has any. -/
def Answer.first? {q : Query} : Answer q → Option q.Value
  | .ok values => values.head?
  | .error _ => none

namespace Engine

/-- The explanation that is made of the first text at its domain, if there is one. -/
def explainBy (E : Engine σ) (r : Request) : Option Text → Probe σ (Option Text)
  | some text => return (← E.expand .explanation r text).toOption
  | none => return none

/-- The explanation that is published at the domain that a target leads to. -/
def explainAt (E : Engine σ) (r : Request) : Except Template.Error Text → Probe σ (Option Text)
  | .ok domain =>
    if DomainName.isValid domain then do E.explainBy r (← Probe.ask E.resolver (.txt domain)).first?
    else return none
  | .error _ => return none

/-- An explanation is made in steps: the domain of its target, the text there, and what it expands to. -/
lemma explain_eq (E : Engine σ) (p : Policy) (r : Request) :
    E.explain p r =
      match p.explanation? with
      | some target => do E.explainAt r (← E.expandDomain r target)
      | none => return none := by
  rw [explain]
  cases p.explanation? with
  | none => rfl
  | some target =>
    refine congrArg (E.expandDomain r target >>= ·) (funext fun domain => ?_)
    cases domain with
    | error e => rfl
    | ok domain =>
      cases hvalid : DomainName.isValid domain with
      | false => simp [explainAt, hvalid]
      | true =>
        simp only [explainAt, hvalid, Bool.not_true, Bool.false_eq_true, if_false, if_true]
        refine congrArg (Probe.ask E.resolver _ >>= ·) (funext fun answer => ?_)
        rcases answer with e | ⟨_ | ⟨text, texts⟩⟩ <;> rfl

/-- A policy explains by its modifier only. -/
lemma explain_congr (E : Engine σ) {p q : Policy} (h : p.explanation? = q.explanation?) (r : Request) :
    E.explain p r = E.explain q r := by
  rw [explain, explain, h]

/-- What a target leads to does not depend on when it is asked for. -/
lemma expandDomain_value {E : Engine σ} (hE : E.resolver.IsSteady) (r : Request) (target : Text) (s s' : Session σ) :
    ((E.expandDomain r target).runFrom s).1 = ((E.expandDomain r target).runFrom s').1 := by
  have hstart : (sameTail s.queries s'.queries).together s s' :=
    ⟨[], (List.append_nil _).symm, (List.append_nil _).symm⟩
  exact ((answersAlike_sameTail hE _ _).expandDomain r target).value hstart

/-- Making an explanation of a text only adds queries. -/
lemma explainBy_queries {E : Engine σ} (r : Request) (text : Option Text) (s : Session σ) :
    ∃ qs, ((E.explainBy r text).runFrom s).2.queries = s.queries ++ qs := by
  cases text with
  | none => exact ⟨[], (List.append_nil _).symm⟩
  | some text =>
    obtain ⟨qs, -, hs⟩ := expand_asks (E := E) .explanation r text s
    have hqueries := Session.queries_replay E.resolver s (qs.map .asked)
    rw [← hs] at hqueries
    exact ⟨_, hqueries⟩

/-- An explanation asks for the texts at the domain that its target leads to. -/
lemma txt_mem_explanationQueries {E : Engine σ} (hE : E.resolver.IsSteady) {p : Policy} {r : Request}
    {target domain : Text} (htarget : p.explanation? = some target) {s : Session σ}
    (hdomain : ((E.expandDomain r target).runFrom s).1 = .ok domain) (hvalid : DomainName.isValid domain = true)
    (state : σ) : .txt domain ∈ E.explanationQueries state (p, r) := by
  rw [expandDomain_value hE r target s (E.fresh state)] at hdomain
  have hexplain : (E.explain p r).runFrom (E.fresh state) = (Probe.ask E.resolver (.txt domain) >>= fun answer =>
      E.explainBy r answer.first?).runFrom ((E.expandDomain r target).runFrom (E.fresh state)).2 := by
    rw [explain_eq, htarget]
    dsimp only
    rw [Probe.runFrom_bind, hdomain, explainAt, if_pos hvalid]
  rw [explanationQueries, hexplain, Probe.runFrom_bind, Session.runFrom_ask]
  obtain ⟨qs, hqs⟩ := explainBy_queries (E := E) r
    (E.resolver.ask (.txt domain) ((E.expandDomain r target).runFrom (E.fresh state)).2.resolver).1.first?
    (((E.expandDomain r target).runFrom (E.fresh state)).2.after E.resolver (.asked (.txt domain)))
  rw [hqs, Session.queries_after]
  simp [Event.query?]

end Engine

/-! ## Two engines -/

/-- The policy of an answer is the one that is found among its texts. -/
lemma Answer.policy_ok {domain : Text} {texts : List Text} {p : Policy} (h : Policy.ofAnswers texts = .ok (some p)) :
    @Answer.policy domain (.ok texts) = .ok (some p) := by
  show (Policy.ofAnswers texts).mapError _ = _
  rw [h]
  rfl

/-- Fixed answers that differ in nothing but the wording of policies: at each name they are the same, or each tells one
policy and both have the same effect. -/
structure Redraft (a₁ a₂ : (q : Query) → Answer q) : Prop where
  hosts : ∀ q, (∀ name, q ≠ .txt name) → a₁ q = a₂ q
  texts : ∀ name, a₁ (.txt name) = a₂ (.txt name) ∨
    ∃ p₁ p₂ : Policy, (a₁ (.txt name)).policy = .ok (some p₁) ∧ (a₂ (.txt name)).policy = .ok (some p₂) ∧
      p₁.SameEffect p₂

namespace Engine

/-- The engine over answers that never change. -/
def fixed (answers : (q : Query) → Answer q) (options : Options) (now : Nat) : Engine Unit where
  resolver := .fixed answers
  options := options
  now := now

variable {a₁ a₂ : (q : Query) → Answer q} {o : Options} {now : Nat} {q : Query}

/-- Answers that never change are steady. -/
lemma isSteady_fixed (a : (q : Query) → Answer q) (o : Options) (now : Nat) : (fixed a o now).resolver.IsSteady :=
  fun _ _ _ => rfl

/-- Equal answers to a query go side by side. -/
lemma matches_ask_fixed (h : a₁ q = a₂ q) :
    Probe.Matches (lockstep Eq) Eq (Probe.ask (Resolver.fixed a₁) q) (Probe.ask (Resolver.fixed a₂) q) :=
  ⟨fun _ => h, fun h => ⟨rfl, h.2.1, congrArg (_ :: ·) h.2.2⟩, False.elim⟩

variable (h : Redraft a₁ a₂)

include h

/-- Redrafted answers are alike but for texts, where hosts are concerned. -/
lemma answersAlike_redraft (o : Options) (now : Nat) :
    AnswersAlike (lockstep Eq) (fixed a₁ o now) (fixed a₂ o now) where
  ask q hq := (matches_ask_fixed (h.hosts q hq)).mono .of_answer_eq
  maxPtrNames := rfl
  targets _ _ _ := rfl

/-- Policies of the same effect are found at each domain, or none. -/
lemma policyAt_redraft (domain : Text) :
    Check.Matches (lockstep Eq) (Option.Rel Policy.SameEffect) ((fixed a₁ o now).policyAt domain)
      ((fixed a₂ o now).policyAt domain) := by
  rcases h.texts domain with heq | ⟨p₁, p₂, h₁, h₂, hsame⟩
  · have hsame : Check.Matches (lockstep Eq) Eq ((fixed a₁ o now).policyAt domain) ((fixed a₂ o now).policyAt domain) :=
      matches_policyAt ((matches_ask_fixed heq).mono .of_answer_eq)
    exact hsame.mono fun {p q} hpq => hpq ▸ rel_refl .refl p
  · refine ⟨fun {s₁ s₂} hs => ?_, False.elim⟩
    have hask₁ : ((fixed a₁ o now).resolver.ask (.txt domain) s₁.resolver).1.policy = .ok (some p₁) := h₁
    have hask₂ : ((fixed a₂ o now).resolver.ask (.txt domain) s₂.resolver).1.policy = .ok (some p₂) := h₂
    rw [policyAt_runFrom, policyAt_runFrom, hask₁, hask₂]
    exact .ok (.some hsame) ⟨rfl, hs.2.1, congrArg (_ :: ·) hs.2.2⟩

variable {x : Explainer Unit} (hx : ∀ {p q}, p.SameEffect q → ∀ r, x p r = x q r)

include hx

/-- Levels go side by side if those below them do. -/
lemma level_redraft {n₁ n₂ : Request → Check Unit Evaluation} {r : Request}
    (hn : ∀ domain, Check.Matches (lockstep Eq) (Alike Eq) (n₁ (r.descend domain)) (n₂ (r.descend domain))) :
    Check.Matches (lockstep Eq) (Alike Eq) ((fixed a₁ o now).level x n₁ r) ((fixed a₂ o now).level x n₂ r) := by
  have hC : (lockstep Eq).Inseparable (Resolver.fixed a₁) (Resolver.fixed a₂) := lockstep.inseparable _ _
  have hagree := (answersAlike_redraft h o now).agreeOnHosts hC rfl rfl
  refine hagree.level_of_policies (fun _ => rfl) .refl (policyAt_redraft h r.domain) fun {p q} hpq => ?_
  rw [decide_of_sameEffect hpq (hx hpq r)]
  exact hagree.decide (fun _ => rfl) hn (fun p => lockstep.matches_self (x p r)) q

/-- Levels go side by side over redrafted answers, however deep they may nest. -/
lemma nest_redraft (n : Nat) (r : Request) :
    Check.Matches (lockstep Eq) (Alike Eq) ((fixed a₁ o now).nest x n r) ((fixed a₂ o now).nest x n r) := by
  have hC : (lockstep Eq).Inseparable (Resolver.fixed a₁) (Resolver.fixed a₂) := lockstep.inseparable _ _
  induction n generalizing r with
  | zero => exact level_redraft h hx fun _ => hC.matches_exhausted
  | succ n ih => exact level_redraft h hx fun domain => ih (r.descend domain)

/-- Whatever explains by the effect of a policy, the evaluations are the same. -/
lemma evaluateWith_redraft (r : Request) (s : Session Unit) :
    ((fixed a₁ o now).evaluateWith x r).runFrom s = ((fixed a₂ o now).evaluateWith x r).runFrom s := by
  have hstart : (lockstep Eq).together s s := ⟨rfl, rfl, rfl⟩
  have hends : Matched (lockstep Eq) (Alike Eq) (((fixed a₁ o now).evaluateWith x r).runFrom s)
      (((fixed a₂ o now).evaluateWith x r).runFrom s) :=
    (nest_redraft h hx s.budget.remaining r).together hstart
  obtain ⟨hresult, htogether⟩ := hends.result_eq id
  exact Prod.ext hresult (lockstep.eq_of_together htogether)

omit hx

/-- A policy explains a request alike if the first text at each name that is asked for is the same. -/
lemma explain_redraft (p : Policy) (r : Request)
    (hserved : ∀ name, .txt name ∈ (fixed a₁ o now).explanationQueries () (p, r) →
      (a₁ (.txt name)).first? = (a₂ (.txt name)).first?) :
    (fixed a₁ o now).explain p r = (fixed a₂ o now).explain p r := by
  have hanswers := answersAlike_redraft h o now
  rw [explain_eq, explain_eq]
  cases htarget : p.explanation? with
  | none => rfl
  | some target =>
    have hexpand : (fixed a₁ o now).expandDomain r target = (fixed a₂ o now).expandDomain r target :=
      lockstep.eq_of_matches (hanswers.expandDomain r target)
    have hby : (fixed a₁ o now).explainBy r = (fixed a₂ o now).explainBy r := by
      funext text
      cases text with
      | none => rfl
      | some text =>
        have htext := lockstep.eq_of_matches (hanswers.expand .explanation r text fun name => rfl)
        rw [explainBy, explainBy, htext]
    funext s
    show Probe.runFrom s _ = Probe.runFrom s _
    rw [Probe.runFrom_bind, Probe.runFrom_bind, ← hexpand]
    cases hdomain : (((fixed a₁ o now).expandDomain r target).runFrom s).1 with
    | error e => rfl
    | ok domain =>
      rw [explainAt, explainAt]
      by_cases hvalid : DomainName.isValid domain = true
      · -- the texts at a valid domain are asked for, so the first of them is the same
        have hmem := txt_mem_explanationQueries (isSteady_fixed a₁ o now) htarget hdomain hvalid ()
        rw [if_pos hvalid, if_pos hvalid, hby, Probe.runFrom_bind, Probe.runFrom_bind]
        show ((fixed a₂ o now).explainBy r (a₁ (.txt domain)).first?).runFrom _ =
          ((fixed a₂ o now).explainBy r (a₂ (.txt domain)).first?).runFrom _
        rw [hserved domain hmem]
        rfl
      · rw [if_neg hvalid, if_neg hvalid]

/-- Evaluations over answers that differ in the wording of policies only are the same: the verdict with its explanation
or the failure, the counters, and the queries. What a level that fails is explained by has to be the same text. -/
theorem evaluate_redraft (o : Options) (now : Nat) (r : Request) (s : Session Unit)
    (hserved : ∀ f ∈ (fixed a₁ o now).failedLevels (fixed a₁ o now).explain r s,
      ∀ name, .txt name ∈ (fixed a₁ o now).explanationQueries () f →
        (a₁ (.txt name)).first? = (a₂ (.txt name)).first?) :
    let ending₁ := ((fixed a₁ o now).evaluate r).runFrom s
    let ending₂ := ((fixed a₂ o now).evaluate r).runFrom s
    ending₁.1 = ending₂.1 ∧ ending₁.2.budget = ending₂.2.budget ∧ ending₁.2.queries = ending₂.2.queries := by
  intro ending₁ ending₂
  have hends : ending₁ = ending₂ := by
    calc ending₁
      _ = ((fixed a₁ o now).evaluateWith (fixed a₂ o now).explain r).runFrom s :=
        (fixed a₁ o now).evaluateWith_congr r s fun f hf => explain_redraft h f.1 f.2 (hserved f hf)
      _ = ending₂ := evaluateWith_redraft h (fun hpq => (fixed a₂ o now).explain_congr hpq.explanation) r s
  rw [hends]
  exact ⟨rfl, rfl, rfl⟩

omit h

/-- A domain includes another one and hands over to it. The texts of that domain are a parameter. -/
def handingOver (record : Text) : (q : Query) → Answer q
  | .txt name =>
    if name = "a.example".toList then .ok ["v=spf1 include:b.example redirect=b.example".toList]
    else if name = "b.example".toList then .ok [record]
    else .ok ["%{i} is not one of %{d}".toList]
  | _ => .error .noSuchDomain

/-- Two policies of the same effect at the domain that is handed over to make redrafted answers. -/
lemma redraft_handingOver {t₁ t₂ : Text} {p₁ p₂ : Policy} (h₁ : Policy.ofAnswers [t₁] = .ok (some p₁))
    (h₂ : Policy.ofAnswers [t₂] = .ok (some p₂)) (h : p₁.SameEffect p₂) :
    Redraft (handingOver t₁) (handingOver t₂) := by
  refine ⟨fun q hq => ?_, fun name => ?_⟩
  · cases q with
    | txt name => exact absurd rfl (hq name)
    | a name | aaaa name | mx name | ptr address => rfl
  · by_cases ha : name = "a.example".toList
    · left
      simp only [handingOver, if_pos ha]
    · by_cases hb : name = "b.example".toList
      · right
        simp only [handingOver, if_neg ha, if_pos hb]
        exact ⟨p₁, p₂, Answer.policy_ok h₁, Answer.policy_ok h₂, h⟩
      · left
        simp only [handingOver, if_neg ha, if_neg hb]

/-- A policy fails everyone, and explains it. Written anew, with its explanation first, a modifier of another name and
more behind its last directive, it is met twice and fails with the same explanation. -/
theorem evaluate_redraft_twice :
    let plain := handingOver "v=spf1 -all exp=why.b.example".toList
    let ornate := handingOver "v=spf1 exp=why.b.example op=%{t} -all a redirect=%{d}.example".toList
    let r : Request := ⟨"u@a.example".toList, "a.example".toList, .v4 ⟨0x7F000001⟩, "a.example".toList, 0⟩
    let s : Session Unit := .start (.fresh 10 2) ()
    let ending := ((fixed ornate {} 0).evaluate r).runFrom s
    Redraft plain ornate ∧
      ((fixed plain {} 0).failedLevels (fixed plain {} 0).explain r s).map (·.2.depth) = [1, 1] ∧
      ending.1 = .ok ⟨.fail, some "127.0.0.1 is not one of b.example".toList⟩ ∧
      ending.2.budget.lookups = 2 ∧
      ending.2.queries = ["a.example", "b.example", "why.b.example", "b.example", "why.b.example"].map
        (.txt ·.toList) := by
  intro plain ornate r s ending
  let p₁ : Policy := ⟨[.directive ⟨.fail, .all⟩, .modifier (.explanation "why.b.example".toList)]⟩
  let p₂ : Policy := ⟨[.modifier (.explanation "why.b.example".toList), .modifier (.unknown "op".toList "%{t}".toList),
    .directive ⟨.fail, .all⟩]⟩
  let p₃ : Policy := ⟨p₂.terms ++ [.directive ⟨.pass, .a none ⟨none, none⟩⟩,
    .modifier (.redirect "%{d}.example".toList)]⟩
  have hmoved : p₁.SameEffect p₂ := .of_modifiers_perm (by decide +kernel) rfl (.refl _)
  have hp₂ : p₂.directives = [] ++ ⟨.fail, .all⟩ :: [] := rfl
  have hp₃ : p₃.directives = [] ++ ⟨.fail, .all⟩ :: [⟨.pass, .a none ⟨none, none⟩⟩] := rfl
  have hmore : p₂.SameEffect p₃ := .of_all rfl hp₂ hp₃ rfl
  have hredraft : Redraft plain ornate :=
    redraft_handingOver (by decide +kernel) (by decide +kernel) (hmoved.trans hmore)
  have hfailed : ∀ f ∈ (fixed plain {} 0).failedLevels (fixed plain {} 0).explain r s,
      (fixed plain {} 0).explanationQueries () f = [.txt "why.b.example".toList] := by
    decide +kernel
  have hserved : ∀ f ∈ (fixed plain {} 0).failedLevels (fixed plain {} 0).explain r s,
      ∀ name, .txt name ∈ (fixed plain {} 0).explanationQueries () f →
        (plain (.txt name)).first? = (ornate (.txt name)).first? := by
    intro f hf name hname
    rw [hfailed f hf, List.mem_singleton] at hname
    obtain rfl := Query.txt.inj hname
    decide +kernel
  have hplain :
      let ending₁ := ((fixed plain {} 0).evaluate r).runFrom s
      ending₁.1 = .ok ⟨.fail, some "127.0.0.1 is not one of b.example".toList⟩ ∧
        ending₁.2.budget.lookups = 2 ∧
        ending₁.2.queries = ["a.example", "b.example", "why.b.example", "b.example", "why.b.example"].map
          (.txt ·.toList) := by
    intro ending₁
    decide +kernel
  obtain ⟨hfail, hlookups, hasked⟩ := hplain
  obtain ⟨hresult, hbudget, hqueries⟩ := evaluate_redraft hredraft {} 0 r s hserved
  refine ⟨hredraft, by decide +kernel, ?_, ?_, ?_⟩
  · rw [← hresult]
    exact hfail
  · rw [← hbudget]
    exact hlookups
  · rw [← hqueries]
    exact hasked

end Engine

end SenderPolicy
