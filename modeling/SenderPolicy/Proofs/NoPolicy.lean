import SenderPolicy.Proofs.Explanations
import SenderPolicy.Proofs.Nesting
import SenderPolicy.Proofs.Reading
import SenderPolicy.Proofs.Sequences

/-!
# Domains without a policy

A domain has no policy if its name is not valid, does not exist, or has no text that is a policy. An evaluation of such
a domain ends with the verdict none, after one query at most, and no other evaluation does (`evaluate_none_iff`). For
what is included or handed over to, it is an error: whatever level is entered without finding a policy, the evaluation
as a whole ends with a failure that names it.

`Heeds` is what a check makes of such levels. The steps that enter no level heed them trivially, and so a check does if
the inclusions and redirections in it do (`Compositional.admitted`).
-/

namespace SenderPolicy

variable {σ α β : Type}

/-! ## Answers without a policy -/

/-- The answer tells that a domain has no policy: its name does not exist, or none of its texts is a policy. -/
def Answer.lacksPolicy {domain : Text} : Answer (.txt domain) → Bool
  | .ok texts => texts.all (!Policy.isPolicyText ·)
  | .error e => e == .noSuchDomain

/-- The policy that the answer for a domain tells, if it tells one. -/
def Answer.policy {domain : Text} (answer : Answer (.txt domain)) : Except Failure (Option Policy) :=
  match answer.records with
  | .error e => .error (.lookup domain e)
  | .ok texts => (Policy.ofAnswers texts).mapError (.policy domain)

namespace Policy

/-- Blanks around a text do not count for whether it is a policy. -/
lemma isPolicyText_trim (t : Text) : isPolicyText (Text.trim t) = isPolicyText t := by
  rw [isPolicyText, isPolicyText, Text.trim_trim]

/-- No text is selected exactly if none is a policy. -/
lemma select_eq_none_iff (texts : List Text) :
    select texts = .ok none ↔ texts.all (!isPolicyText ·) = true := by
  have hnil : (texts.map Text.trim).filter isPolicyText = [] ↔ texts.all (!isPolicyText ·) = true := by
    simp [List.filter_eq_nil_iff, isPolicyText_trim]
  rw [← hnil, select]
  rcases (texts.map Text.trim).filter isPolicyText with _ | ⟨t, _ | ⟨u, ts⟩⟩
  · simp
  · simp
  · simp

/-- An answer has no policy exactly if none of its texts is one. -/
lemma ofAnswers_eq_none_iff (texts : List Text) :
    ofAnswers texts = .ok none ↔ texts.all (!isPolicyText ·) = true := by
  rw [← select_eq_none_iff, ofAnswers]
  cases select texts with
  | error e =>
    show (.error e : Except PolicyError (Option Policy)) = .ok none ↔ _
    simp
  | ok found =>
    show (found.mapM parse : Except PolicyError (Option Policy)) = .ok none ↔ _
    cases found with
    | none => exact iff_of_true rfl rfl
    | some t =>
      show (parse t).map some = .ok none ↔ _
      cases parse t with
      | ok p => simp [Except.map]
      | error e => simp [Except.map]

end Policy

/-- An answer tells no policy, and no failure, exactly if it lacks one. -/
lemma Answer.policy_eq_none_iff {domain : Text} (answer : Answer (.txt domain)) :
    answer.policy = .ok none ↔ answer.lacksPolicy = true := by
  cases answer with
  | error e =>
    cases e with
    | noSuchDomain => exact iff_of_true rfl rfl
    | timeout | serverFailure | refused | other reason => exact iff_of_false nofun nofun
  | ok texts =>
    have hnone := Policy.ofAnswers_eq_none_iff texts
    rw [lacksPolicy, ← hnone]
    show (Policy.ofAnswers texts).mapError _ = _ ↔ _
    cases Policy.ofAnswers texts with
    | ok found => simp [Except.mapError]
    | error e => exact iff_of_false nofun nofun

/-! ## The level itself -/

/-- The domain has no policy for a resolver in the state. -/
def Resolver.LacksPolicy (R : Resolver σ) (domain : Text) (state : σ) : Prop :=
  DomainName.isValid domain = false ∨ (R.ask (.txt domain) state).1.lacksPolicy = true

namespace Engine

variable {E : Engine σ} {explainer : Explainer σ} {nested : Request → Check σ Evaluation} {r : Request} {s : Session σ}

/-- What a level finds at its domain is told by the answer to one query. -/
lemma policyAt_runFrom (domain : Text) (s : Session σ) :
    (E.policyAt domain).runFrom s =
      ((E.resolver.ask (.txt domain) s.resolver).1.policy, s.after E.resolver (.asked (.txt domain))) := by
  rw [policyAt, Check.runFrom_bind_ok (Check.runFrom_lift _ s), Session.runFrom_ask, Answer.policy]
  dsimp only
  cases (E.resolver.ask (.txt domain) s.resolver).1.records with
  | error e => rfl
  | ok texts =>
    dsimp only
    cases Policy.ofAnswers texts with
    | ok found => rfl
    | error e => rfl

/-- A level that is not too deep is let through. -/
lemma admitDepth_bind (hdepth : r.depth ≤ E.options.maxDepth) (k : Unit → Check σ α) :
    E.admitDepth r.depth >>= k = k () := by
  rw [admitDepth, if_neg (Nat.not_lt.mpr hdepth)]
  rfl

/-- A level with an invalid domain ends at once. -/
lemma level_of_not_isValid (hdepth : r.depth ≤ E.options.maxDepth) (hvalid : DomainName.isValid r.domain = false) :
    (E.level explainer nested r).runFrom s = (.ok ⟨.none, none⟩, s.after E.resolver (.entered r.domain r.depth)) := by
  rw [level_eq, Check.runFrom_bind_ok (Session.runFrom_enter E.resolver _ _ s), admitDepth_bind hdepth, admitted]
  simp [hvalid]

/-- What a level with a valid domain does first is to ask for the texts at it. -/
lemma level_of_isValid (hdepth : r.depth ≤ E.options.maxDepth) (hvalid : DomainName.isValid r.domain = true) :
    let policy := (E.resolver.ask (.txt r.domain) s.resolver).1.policy
    let asked := (s.after E.resolver (.entered r.domain r.depth)).after E.resolver (.asked (.txt r.domain))
    (E.level explainer nested r).runFrom s =
      match policy with
      | .error f => (.error f, asked)
      | .ok none => (.ok ⟨.none, none⟩, asked)
      | .ok (some p) => (E.decide explainer nested r p).runFrom asked := by
  intro policy asked
  have hpolicy := policyAt_runFrom (E := E) r.domain (s.after E.resolver (.entered r.domain r.depth))
  rw [level_eq, Check.runFrom_bind_ok (Session.runFrom_enter E.resolver _ _ s), admitDepth_bind hdepth, admitted,
    hvalid]
  show ((E.policyAt r.domain >>= _ : Check σ Evaluation)).runFrom _ = _
  rw [Check.runFrom_bind, hpolicy]
  dsimp only [policy, asked, Session.after]
  rcases (E.resolver.ask (.txt r.domain) s.resolver).1.policy with f | _ | p
  · rfl
  · rfl
  · rfl

/-- A policy never decides for the verdict none. -/
lemma decide_ne_none (p : Policy) :
    Check.Yields (fun e : Evaluation => e.verdict ≠ .none) (E.decide explainer nested r p) := by
  refine .bind_any fun found => ?_
  split
  · next d =>
    have hverdict : ∀ x, (⟨d.qualifier.verdict, x⟩ : Evaluation).verdict ≠ .none := by
      intro x
      cases d.qualifier <;> nofun
    split
    · exact .bind_any fun x => .pure (hverdict x)
    · exact .bind_any fun x => .pure (hverdict x)
  · split
    · refine .bind_any fun _ => .bind_any fun domain => .bind_any fun evaluation => ?_
      split
      · exact .bind (V := fun _ => False) (.throw _) fun _ => False.elim
      · next hverdict => exact .pure hverdict
    · exact .pure nofun

/-- A level whose domain has no policy ends without a decision. -/
lemma level_of_lacksPolicy (hdepth : r.depth ≤ E.options.maxDepth)
    (hlacks : E.resolver.LacksPolicy r.domain s.resolver) :
    ((E.level explainer nested r).runFrom s).1 = .ok ⟨.none, none⟩ := by
  cases hvalid : DomainName.isValid r.domain with
  | false => rw [level_of_not_isValid hdepth hvalid]
  | true =>
    have hlacks : (E.resolver.ask (.txt r.domain) s.resolver).1.policy = .ok none := by
      rcases hlacks with h | h
      · rw [h] at hvalid
        cases hvalid
      · exact (Answer.policy_eq_none_iff _).mpr h
    rw [level_of_isValid hdepth hvalid, hlacks]

/-- A level ends with the verdict none exactly if its domain has no policy. -/
lemma level_eq_none_iff (hdepth : r.depth ≤ E.options.maxDepth) :
    ((E.level explainer nested r).runFrom s).1.map Evaluation.verdict = .ok .none ↔
      E.resolver.LacksPolicy r.domain s.resolver := by
  refine ⟨fun h => ?_, fun h => by rw [level_of_lacksPolicy hdepth h]; rfl⟩
  cases hvalid : DomainName.isValid r.domain with
  | false => exact .inl hvalid
  | true =>
    refine .inr ((Answer.policy_eq_none_iff _).mp ?_)
    rw [level_of_isValid hdepth hvalid] at h
    rcases hpolicy : (E.resolver.ask (.txt r.domain) s.resolver).1.policy with f | _ | p
    · rw [hpolicy] at h
      cases h
    · rfl
    · rw [hpolicy] at h
      -- a policy that was found decides something, so the verdict would not be none
      cases hend : ((E.decide explainer nested r p).runFrom
          ((s.after E.resolver (.entered r.domain r.depth)).after E.resolver (.asked (.txt r.domain)))).1 with
      | error f =>
        simp only [hend] at h
        cases h
      | ok e =>
        simp only [hend] at h
        exact absurd (Except.ok.inj h) (decide_ne_none p _ e hend)

/-! ## Levels nested in it -/

variable (E) in
/-- Whatever level the check enters that is not too deep and whose domain has no policy, the check ends as it should
for that domain. -/
def Heeds (V : Text → Except Failure α → Prop) (c : Check σ α) : Prop :=
  ∀ s, ∃ t, (c.runFrom s).2 = s.replay E.resolver t ∧
    ∀ {domain depth u}, .entered domain depth :: u <:+ t → depth ≤ E.options.maxDepth →
      E.resolver.LacksPolicy domain (s.replay E.resolver u).resolver → V domain (c.runFrom s).1

/-- The end of a check that included a domain without a policy, or handed over to it. -/
def NamesAbsence (domain : Text) (x : Except Failure α) : Prop :=
  x = .error (.includeWithoutPolicy domain) ∨ x = .error (.redirectWithoutPolicy domain)

/-- The end of a level that a domain without a policy was met in: it is its own, or one that was nested in it. -/
def MeetsAbsence (r : Request) (domain : Text) (x : Except Failure Evaluation) : Prop :=
  NamesAbsence domain x ∨ domain = r.domain ∧ x = .ok ⟨.none, none⟩

/-- A check that enters no level has nothing to heed. -/
lemma heeds_of_forall_ne {V : Text → Except Failure α → Prop} {c : Check σ α}
    (hc : ∀ s, ∃ t, (c.runFrom s).2 = s.replay E.resolver t ∧ ∀ domain depth, .entered domain depth ∉ t) :
    E.Heeds V c := by
  intro s
  obtain ⟨t, hs, hnone⟩ := hc s
  refine ⟨t, hs, fun {domain depth u} hu => ?_⟩
  have hmem : Event.entered domain depth ∈ t := hu.mem List.mem_cons_self
  exact absurd hmem (hnone domain depth)

/-- What a first part ends with is heeded if a failure of it, and whatever follows a value of it, ends as it should. -/
lemma Heeds.bind_of {V : Text → Except Failure α → Prop} {W : Text → Except Failure β → Prop} {c : Check σ α}
    {k : α → Check σ β} (hc : E.Heeds V c) (hk : ∀ a, E.Heeds W (k a))
    (herror : ∀ {domain f}, V domain (.error f) → W domain (.error f))
    (hok : ∀ {domain a}, V domain (.ok a) → ∀ s, W domain ((k a).runFrom s).1) : E.Heeds W (c >>= k) := by
  intro s
  obtain ⟨t, hs, ht⟩ := hc s
  rcases hrun : c.runFrom s with ⟨x, s₁⟩
  simp only [hrun] at hs ht
  cases x with
  | error f =>
    rw [Check.runFrom_bind_error hrun]
    exact ⟨t, hs, fun hu hdepth hlacks => herror (ht hu hdepth hlacks)⟩
  | ok a =>
    rw [Check.runFrom_bind_ok hrun]
    obtain ⟨t', hs', ht'⟩ := hk a s₁
    refine ⟨t' ++ t, by rw [hs', hs, Session.replay_append], fun hu hdepth hlacks => ?_⟩
    rcases cons_suffix_append_cases hu with hfirst | ⟨w, rfl, hsecond⟩
    · exact hok (ht hfirst hdepth hlacks) s₁
    · rw [Session.replay_append, ← hs] at hlacks
      exact ht' hsecond hdepth hlacks

/-- A failure names the domain whatever the check was for. -/
lemma NamesAbsence.of_error {domain : Text} {f : Failure} (h : NamesAbsence domain (.error f : Except Failure α)) :
    NamesAbsence domain (.error f : Except Failure β) := by
  rcases h with h | h
  · obtain rfl := Except.error.inj h
    exact .inl rfl
  · obtain rfl := Except.error.inj h
    exact .inr rfl

/-- No value names a domain without a policy. -/
lemma NamesAbsence.not_ok {domain : Text} {a : α} : ¬NamesAbsence domain (.ok a) := by
  rintro (h | h)
  · cases h
  · cases h

/-- A probe enters no level. -/
lemma Asks.heeds {V : Text → Except Failure α → Prop} {n : Nat} {p : Probe σ α} (hp : E.Asks n p) :
    E.Heeds V (liftM p) := by
  refine heeds_of_forall_ne fun s => ?_
  obtain ⟨qs, -, hs⟩ := hp s
  exact ⟨qs.map .asked, hs, by simp⟩

/-- A charge enters no level. -/
lemma heeds_charge {V : Text → Except Failure Unit → Prop} : E.Heeds V Check.charge := by
  refine heeds_of_forall_ne fun s => ?_
  rw [Session.runFrom_charge E.resolver]
  split
  · exact ⟨[.charged], rfl, by simp⟩
  · exact ⟨[], rfl, by simp⟩

/-- Counting an empty answer enters no level. -/
lemma heeds_recordVoid {V : Text → Except Failure Unit → Prop} : E.Heeds V Check.recordVoid := by
  refine heeds_of_forall_ne fun s => ⟨[.void], ?_, by simp⟩
  rw [Session.runFrom_recordVoid E.resolver]
  split
  · rfl
  · rfl

/-- So what is made of the small steps heeds domains without a policy. -/
lemma compositional_heeds (E : Engine σ) : E.Compositional fun _ c => E.Heeds NamesAbsence c where
  pure _ := heeds_of_forall_ne fun _ => ⟨[], rfl, by simp⟩
  throw _ := heeds_of_forall_ne fun _ => ⟨[], rfl, by simp⟩
  probe := Asks.heeds
  charge := heeds_charge
  recordVoid := heeds_recordVoid
  bind hc hk := hc.bind_of hk .of_error fun h => absurd h NamesAbsence.not_ok

section

variable (hnested : ∀ r, E.Heeds (MeetsAbsence r) (nested r))

include hnested

/-- A level that ends without a policy is named by what it is nested in. -/
lemma nested_bind_heeds {k : Evaluation → Check σ β} (domain : Text) (hk : ∀ e, E.Heeds NamesAbsence (k e))
    (hnone : ∀ s, NamesAbsence domain ((k ⟨.none, none⟩).runFrom s).1) :
    E.Heeds NamesAbsence (nested (r.descend domain) >>= k) := by
  refine (hnested (r.descend domain)).bind_of hk (fun h => ?_) fun h => ?_
  · rcases h with h | ⟨-, h⟩
    · exact h.of_error
    · cases h
  · rcases h with h | ⟨rfl, h⟩
    · exact absurd h NamesAbsence.not_ok
    · obtain rfl := Except.ok.inj h
      exact hnone

/-- An inclusion of a domain without a policy fails and names it. -/
lemma passedBy_heeds (domain : Text) : E.Heeds NamesAbsence (passedBy nested r domain) := by
  refine nested_bind_heeds hnested domain (fun e => ?_) fun s => .inl rfl
  split
  · exact (compositional_heeds E).pure true
  · exact (compositional_heeds E).throw _
  · exact (compositional_heeds E).pure false

/-- A redirection to a domain without a policy fails and names it. -/
lemma redirected_heeds (target : Text) : E.Heeds NamesAbsence (E.redirected nested r target) := by
  have h := compositional_heeds E
  refine h.bind h.charge fun _ => h.bind (h.targetDomain r target) fun domain => ?_
  refine nested_bind_heeds hnested domain (fun e => ?_) fun s => .inr rfl
  split
  · exact h.throw_bind _ _
  · exact h.pure e

variable {m : Nat} (hexplainer : ∀ p r, E.Asks m (explainer p r))

include hexplainer

/-- What a level decides by its policy, it decides after further events. -/
lemma decide_replay (p : Policy) (s : Session σ) :
    ∃ t, ((E.decide explainer nested r p).runFrom s).2 = s.replay E.resolver t := by
  obtain ⟨t, ht, -⟩ := (compositional_heeds E).decide (passedBy_heeds hnested) (redirected_heeds hnested) hexplainer p s
  exact ⟨t, ht⟩

/-- The first event of a level is that it is entered; what it does then is made of small steps. -/
lemma level_heeds_entered (r : Request) (s : Session σ) :
    ∃ t, ((E.level explainer nested r).runFrom s).2 =
        (s.after E.resolver (.entered r.domain r.depth)).replay E.resolver t ∧
      ∀ {domain depth u}, .entered domain depth :: u <:+ t → depth ≤ E.options.maxDepth →
        E.resolver.LacksPolicy domain
          ((s.after E.resolver (.entered r.domain r.depth)).replay E.resolver u).resolver →
        NamesAbsence domain ((E.level explainer nested r).runFrom s).1 := by
  rw [level_eq, Check.runFrom_bind_ok (Session.runFrom_enter E.resolver _ _ s)]
  exact (compositional_heeds E).admitted (passedBy_heeds hnested) (redirected_heeds hnested) hexplainer _

/-- A level without a policy is the one itself, or one nested in it that its failure names. -/
lemma level_heeds (r : Request) : E.Heeds (MeetsAbsence r) (E.level explainer nested r) := by
  intro s
  obtain ⟨t, hs, ht⟩ := level_heeds_entered hnested hexplainer r s
  refine ⟨t ++ [.entered r.domain r.depth], by rw [hs, Session.replay_append]; rfl, fun hu hdepth hlacks => ?_⟩
  rcases cons_suffix_append_cases hu with hown | ⟨w, rfl, hnext⟩
  · -- the level itself, entered before all else
    rcases List.suffix_cons_iff.mp hown with heq | hnil
    · obtain ⟨hevent, rfl⟩ := List.cons.inj heq
      obtain ⟨rfl, rfl⟩ := Event.entered.inj hevent
      exact .inr ⟨rfl, level_of_lacksPolicy hdepth hlacks⟩
    · cases List.suffix_nil.mp hnil
  · rw [Session.replay_append] at hlacks
    exact .inl (ht hnext hdepth hlacks)

omit hnested in
/-- Levels heed a level that finds no policy, however deep they may nest. -/
lemma nest_heeds (n : Nat) (r : Request) : E.Heeds (MeetsAbsence r) (E.nest explainer n r) := by
  induction n generalizing r with
  | zero => exact level_heeds (fun _ => heeds_of_forall_ne fun s => ⟨[], rfl, by simp⟩) hexplainer r
  | succ n ih => exact level_heeds ih hexplainer r

end

/-! ## Evaluations -/

/-- An evaluation meets a domain without a policy at its first level, or fails and names it. -/
lemma evaluate_heeds (r : Request) : E.Heeds (MeetsAbsence r) (E.evaluate r) :=
  fun s => nest_heeds explain_asks s.budget.remaining r s

/-- The first query of an evaluation is the one for the policy of its domain; without a policy there is no other, and
nothing is charged or counted. -/
lemma evaluate_queries_of_isValid (r : Request) (hdepth : r.depth ≤ E.options.maxDepth)
    (hvalid : DomainName.isValid r.domain = true) (s : Session σ) :
    ∃ rest, ((E.evaluate r).runFrom s).2.queries = s.queries ++ .txt r.domain :: rest ∧
      ((E.resolver.ask (.txt r.domain) s.resolver).1.lacksPolicy = true →
        rest = [] ∧ ((E.evaluate r).runFrom s).2.budget = s.budget) := by
  let asked := s.replay E.resolver [.asked (.txt r.domain), .entered r.domain r.depth]
  have hasked : asked.queries = s.queries ++ [.txt r.domain] := Session.queries_replay E.resolver s _
  rw [evaluate_eq, level_of_isValid hdepth hvalid, ← Answer.policy_eq_none_iff]
  rcases (E.resolver.ask (.txt r.domain) s.resolver).1.policy with f | _ | p
  · exact ⟨[], hasked, nofun⟩
  · exact ⟨[], hasked, fun _ => ⟨rfl, rfl⟩⟩
  · obtain ⟨t, ht⟩ := decide_replay evaluate_heeds explain_asks p asked
    refine ⟨(t.filterMap Event.query?).reverse, ?_, nofun⟩
    show ((E.decide E.explain E.evaluate r p).runFrom asked).2.queries = _
    rw [ht, Session.queries_replay, hasked, List.append_assoc, List.singleton_append]

/-- An evaluation ends without a decision exactly if its domain has no policy. It sends no query then if the name of
the domain is not valid, and the one for its policy otherwise, and uses up nothing. A level nested in it never ends it
so: if that has no policy, the evaluation fails and names it. -/
theorem evaluate_none_iff (E : Engine σ) (r : Request) (hdepth : r.depth ≤ E.options.maxDepth) (s : Session σ) :
    let ending := (E.evaluate r).runFrom s
    let entered := s.after E.resolver (.entered r.domain r.depth)
    (ending.1.map Evaluation.verdict = .ok .none ↔
        DomainName.isValid r.domain = false ∨ (E.resolver.ask (.txt r.domain) s.resolver).1.lacksPolicy = true) ∧
      (DomainName.isValid r.domain = false → ending.2.queries = s.queries ∧ ending.2.budget = s.budget) ∧
      (DomainName.isValid r.domain = true →
        ∃ rest, ending.2.queries = s.queries ++ .txt r.domain :: rest ∧
          ((E.resolver.ask (.txt r.domain) s.resolver).1.lacksPolicy = true →
            rest = [] ∧ ending.2.budget = s.budget)) ∧
      ∃ t, ending.2 = entered.replay E.resolver t ∧
        ∀ domain depth u, .entered domain depth :: u <:+ t → depth ≤ E.options.maxDepth →
          E.resolver.LacksPolicy domain (entered.replay E.resolver u).resolver →
          ending.1 = .error (.includeWithoutPolicy domain) ∨ ending.1 = .error (.redirectWithoutPolicy domain) := by
  intro ending entered
  have hlevel : ending = (E.level E.explain E.evaluate r).runFrom s := by rw [← evaluate_eq]
  refine ⟨?_, fun hinvalid => ?_, fun hvalid => evaluate_queries_of_isValid r hdepth hvalid s, ?_⟩
  · rw [hlevel]
    exact level_eq_none_iff hdepth
  · rw [hlevel, level_of_not_isValid hdepth hinvalid]
    exact ⟨(Session.queries_replay E.resolver s [.entered r.domain r.depth]).trans (List.append_nil _), rfl⟩
  · obtain ⟨t, hs, ht⟩ := level_heeds_entered evaluate_heeds explain_asks r s
    rw [hlevel]
    exact ⟨t, hs, fun domain depth u hu => ht hu⟩

/-- A domain includes one that hands over to another, and neither that nor any other domain has a policy. -/
def partlyPublished : (q : Query) → Answer q
  | .txt name =>
    if name = "a.example".toList then .ok ["v=spf1 include:%{d1}.b.example -all".toList]
    else if name = "example.b.example".toList then .ok ["v=spf1 ip6:::/0 redirect=c.example".toList]
    else .ok ["v=spf10 -all".toList]
  | _ => .error .noSuchDomain

/-- A domain two levels below has no policy, so the evaluation fails for it; its own evaluation ends without a decision
after one query. -/
theorem evaluate_none_iff_nested :
    let E : Engine Nat := ⟨⟨fun q sent => (partlyPublished q, sent + 1)⟩, {}, 0⟩
    let r : Request := ⟨"u@a.example".toList, "a.example".toList, .v4 ⟨0x7F000001⟩, "a.example".toList, 0⟩
    let nowhere : Request := { r with domain := "c.example".toList, depth := 2 }
    let s : Session Nat := .start (.fresh 10 2) 0
    r.depth ≤ E.options.maxDepth ∧ nowhere.depth ≤ E.options.maxDepth ∧
      (((E.evaluate r).runFrom s).1 = .error (.includeWithoutPolicy "c.example".toList) ∨
        ((E.evaluate r).runFrom s).1 = .error (.redirectWithoutPolicy "c.example".toList)) ∧
      ((E.evaluate nowhere).runFrom s).1.map Evaluation.verdict = .ok .none ∧
      ((E.evaluate nowhere).runFrom s).2.queries = [.txt "c.example".toList] ∧
      ((E.evaluate nowhere).runFrom s).2.budget = .fresh 10 2 := by
  intro E r nowhere s
  have hdepth : r.depth ≤ E.options.maxDepth := by decide
  have hdepth' : nowhere.depth ≤ E.options.maxDepth := by decide
  have hvalid : DomainName.isValid nowhere.domain = true := by decide +kernel
  have hlacks : (E.resolver.ask (.txt nowhere.domain) s.resolver).1.lacksPolicy = true := by decide +kernel
  obtain ⟨-, -, -, t, hs, ht⟩ := evaluate_none_iff E r hdepth s
  obtain ⟨hnone, -, hrest, -⟩ := evaluate_none_iff E nowhere hdepth' s
  obtain ⟨rest, hqueries, hend⟩ := hrest hvalid
  obtain ⟨rfl, hbudget⟩ := hend hlacks
  refine ⟨hdepth, hdepth', ?_, hnone.mpr (.inr hlacks), hqueries, hbudget⟩
  -- the events of the evaluation are those of its journal, but for the first
  have hjournal : ((E.evaluate r).runFrom s).2.journal = t ++ [.entered r.domain r.depth] := by
    rw [hs]
    exact Session.journal_replay E.resolver _ t
  have hevents : t = ((E.evaluate r).runFrom s).2.journal.dropLast := by rw [hjournal, List.dropLast_concat]
  have hentered : .entered "c.example".toList 2 :: t.drop 2 = t.drop 1 := by
    rw [hevents]
    decide +kernel
  exact ht "c.example".toList 2 (t.drop 2) (hentered ▸ List.drop_suffix 1 t) (by decide) (.inr hlacks)

end Engine

end SenderPolicy
