import SenderPolicy.Checking
import SenderPolicy.Proofs.Confinement
import SenderPolicy.Proofs.Agreement
import SenderPolicy.Proofs.Spending

/-!
# How evaluations end

The ends that an evaluation can meet, for every resolver (`evaluate_ends`). Targets were checked when their policy was
read, so none of them fails to expand. That a name does not exist is an answer wherever it is met, so a lookup that
fails an evaluation is one that did not complete, and some query was answered so.

`EndsWell` is stated for each check, as `Affords` is. A check may fail for a lookup only if its error was the answer to
some query it sent, or is `known` from the check it is a part of.
-/

namespace SenderPolicy

variable {σ α β : Type}

/-- The failures that an evaluation may end with. -/
def Failure.isExpected : Failure → Bool
  | policy _ _ | lookupLimit _ | voidLimit _ | depthLimit _ | tooManyExchanges _ _ _ | includeWithoutPolicy _
  | redirectWithoutPolicy _ => true
  | lookup _ e => e.isTransient
  | _ => false

/-- An expected failure turns no query down. -/
lemma Failure.verdict_ne_invalid {f : Failure} (h : f.isExpected = true) : f.verdict ≠ .invalid := by
  cases f with
  | emptyDomain | idna _ | invalidDomain _ _ | invalidAddress _ => cases h
  | _ => nofun

/-- An expected failure that may pass is that of a lookup which did not complete. -/
lemma Failure.eq_lookup_of_verdict {f : Failure} (h : f.isExpected = true) (hv : f.verdict = .tempError) :
    ∃ name e, f = .lookup name e ∧ e.isTransient = true := by
  cases f with
  | lookup name e => exact ⟨name, e, rfl, h⟩
  | noResolver _ => cases h
  | _ => cases hv

/-- A lookup that failed in any other way than that the name does not exist did not complete. -/
lemma DnsError.isTransient_of_ne {e : DnsError} (h : e ≠ .noSuchDomain) : e.isTransient = true := by
  cases e with
  | noSuchDomain => exact absurd rfl h
  | timeout => rfl
  | serverFailure => rfl
  | refused => rfl
  | other reason => rfl

/-- An answer has no records only for its own error. -/
lemma Answer.eq_of_records {q : Query} {answer : Answer q} {e : DnsError} (h : answer.records = .error e) :
    answer = .error e ∧ e ≠ .noSuchDomain := by
  rw [records.eq_def] at h
  split at h
  · cases h
  · next hne =>
    subst h
    exact ⟨rfl, fun he => hne (congrArg Except.error he)⟩

/-! ## What a well-formed policy has -/

/-- The verdict of a qualifier is no error. -/
lemma Qualifier.isError_verdict (q : Qualifier) : q.verdict.isError = false := by
  cases q <;> rfl

/-- The verdicts that are no errors are five. -/
lemma Verdict.mem_of_isError {v : Verdict} (h : v.isError = false) : v ∈ [pass, fail, softFail, neutral, none] := by
  cases v with
  | permError | tempError | invalid => cases h
  | pass | fail | softFail | neutral | none => decide

/-- A verdict that is no error neither turns a query down nor may pass later. -/
lemma Verdict.ne_of_isError {v : Verdict} (h : v.isError = false) : v ≠ invalid ∧ v ≠ tempError := by
  cases v with
  | permError | tempError | invalid => cases h
  | pass | fail | softFail | neutral | none => exact ⟨nofun, nofun⟩

/-- A target that was admitted is a template. -/
lemma check_of_checkTarget {owner target : Text} (h : Policy.checkTarget owner target = .ok ()) :
    Template.check .domain target = .ok () := by
  simp only [Policy.checkTarget] at h
  split at h
  · cases h
  split at h
  · cases h
  · assumption

/-- The directives of a well-formed policy have well-formed mechanisms. -/
lemma Policy.WellFormed.wellFormed_of_mem_directives {p : Policy} {d : Directive} (hp : p.WellFormed)
    (hd : d ∈ p.directives) : d.mechanism.WellFormed := by
  obtain ⟨term, hterm, heq⟩ := List.mem_filterMap.mp hd
  cases term with
  | directive d' =>
    obtain rfl := Option.some.inj heq
    exact hp.terms _ hterm
  | modifier m => cases heq

/-- The redirection of a well-formed policy has a template for its target. -/
lemma Policy.WellFormed.check_of_redirect? {p : Policy} {target : Text} (hp : p.WellFormed)
    (h : p.redirect? = some target) : Template.check .domain target = .ok () := by
  obtain ⟨term, hterm, heq⟩ := List.exists_of_findSome?_eq_some h
  rcases term with d | (target' | target' | ⟨name, value⟩)
  · cases heq
  · obtain rfl := Option.some.inj heq
    have hwell : Policy.IsTarget _ target' := hp.terms _ hterm
    exact check_of_checkTarget hwell.checked
  · cases heq
  · cases heq

/-! ## Answers to the queries of a check -/

namespace Session

variable {R : Resolver σ} {s : Session σ} {t u : List Event} {e : DnsError}

/-- Some query among the events since a session was answered with the error. -/
def Answered (R : Resolver σ) (s : Session σ) (t : List Event) (e : DnsError) : Prop :=
  ∃ u q v, t = v ++ .asked q :: u ∧ (R.ask q (s.replay R u).resolver).1 = .error e

/-- A query was answered with an error if it was exchanged for that error. -/
lemma answered_iff : s.Answered R t e ↔ ∃ q, s.Exchanged R t q (.error e) :=
  exists_comm

/-- An error that was answered stays so whatever happens later. -/
lemma Answered.append_left (h : s.Answered R t e) (u : List Event) : s.Answered R (u ++ t) e := by
  obtain ⟨q, hq⟩ := answered_iff.mp h
  exact answered_iff.mpr ⟨q, hq.append_left u⟩

/-- An error answered after some events was answered since the session before them. -/
lemma Answered.append_right (h : (s.replay R t).Answered R u e) : s.Answered R (u ++ t) e := by
  obtain ⟨q, hq⟩ := answered_iff.mp h
  exact answered_iff.mpr ⟨q, hq.append_right⟩

end Session

namespace Engine

variable (E : Engine σ)

/-- A check that starts in `s` ends with `x` in `s'` after the events `t`: with a value as it should be, or with a
failure that is expected. -/
structure Ends (known : DnsError → Prop) (V : α → Prop) (s : Session σ) (t : List Event) (x : Except Failure α)
    (s' : Session σ) : Prop where
  replays : s' = s.replay E.resolver t
  value : ∀ {a}, x = .ok a → V a
  expected : ∀ {f}, x = .error f → f.isExpected = true
  answered : ∀ {name e}, x = .error (.lookup name e) → known e ∨ s.Answered E.resolver t e

/-- From every session the check ends as it should. -/
def EndsWell (known : DnsError → Prop) (V : α → Prop) (c : Check σ α) : Prop :=
  ∀ s, ∃ t, E.Ends known V s t (c.runFrom s).1 (c.runFrom s).2

/-- From every session the probe only sends queries, and an error that it tells of was the answer to one of them. -/
def Reports (err : α → DnsError → Prop) (p : Probe σ α) : Prop :=
  ∀ s, ∃ t, (p.runFrom s).2 = s.replay E.resolver t ∧ ∀ e, err (p.runFrom s).1 e → s.Answered E.resolver t e

variable {E} {known : DnsError → Prop} {V : α → Prop} {W : β → Prop}

/-- The error of an answer was the answer to the query. -/
lemma reports_ask (q : Query) :
    E.Reports (fun (answer : Answer q) e => answer = .error e) (Probe.ask E.resolver q) :=
  fun _ => ⟨[.asked q], rfl, fun _ he => ⟨[], q, [], rfl, he⟩⟩

/-- The error of a lookup for addresses was the answer to its query. -/
lemma addresses_reports (name : Text) (client : Address) :
    E.Reports (fun answer e => answer = .error e) (E.addresses name client) := by
  intro s
  cases client with
  | v4 a => exact ⟨[.asked (.a name)], rfl, fun e he => ⟨[], .a name, [], rfl, eq_error_of_map_eq_error he⟩⟩
  | v6 a => exact ⟨[.asked (.aaaa name)], rfl, fun e he => ⟨[], .aaaa name, [], rfl, eq_error_of_map_eq_error he⟩⟩

/-- To end with a value as it should be is to end well. -/
lemma endsWell_pure {a : α} (h : V a) : E.EndsWell known V (pure a : Check σ α) :=
  fun _ => ⟨[], rfl, fun e => Except.ok.inj e ▸ h, nofun, nofun⟩

/-- To fail for an expected reason is to end well, if the error of a lookup is known. -/
lemma endsWell_throw {f : Failure} (hf : f.isExpected = true) (hknown : ∀ name e, f = .lookup name e → known e) :
    E.EndsWell known V (throw f : Check σ α) :=
  fun _ => ⟨[], rfl, nofun, fun e => Except.error.inj e ▸ hf, fun e => .inl (hknown _ _ (Except.error.inj e))⟩

/-- A lookup fails a check for an error of its answer. -/
lemma endsWell_throw_lookup {q : Query} {answer : Answer q} {e : DnsError} (h : answer.records = .error e) (name : Text) :
    E.EndsWell (fun e => known e ∨ answer = .error e) V (throw (.lookup name e) : Check σ α) := by
  obtain ⟨he, hne⟩ := Answer.eq_of_records h
  refine endsWell_throw (DnsError.isTransient_of_ne hne) ?_
  rintro _ _ ⟨⟩
  exact .inr he

/-- Checks in a row end well if each does. -/
lemma EndsWell.bind {c : Check σ α} {k : α → Check σ β} (hc : E.EndsWell known V c)
    (hk : ∀ a, V a → E.EndsWell known W (k a)) : E.EndsWell known W (c >>= k) := by
  intro s
  obtain ⟨t, ht⟩ := hc s
  rcases hrun : c.runFrom s with ⟨x, s₁⟩
  simp only [hrun] at ht
  cases x with
  | error f =>
    rw [Check.runFrom_bind_error hrun]
    exact ⟨t, ht.replays, nofun, fun e => ht.expected (congrArg Except.error (Except.error.inj e)),
      fun e => ht.answered (congrArg Except.error (Except.error.inj e))⟩
  | ok a =>
    rw [Check.runFrom_bind_ok hrun]
    obtain ⟨t', ht'⟩ := hk a (ht.value rfl) s₁
    have hreplays := ht.replays
    refine ⟨t' ++ t, ?_, ht'.value, ht'.expected, fun e => ?_⟩
    · rw [ht'.replays, hreplays, Session.replay_append]
    · -- what was answered since the first check was answered since the start
      refine (ht'.answered e).imp_right fun h => ?_
      rw [hreplays] at h
      exact h.append_right

/-- What follows a failure is not reached. -/
lemma throw_bind_endsWell {f : Failure} {k : α → Check σ β} (hf : f.isExpected = true)
    (hknown : ∀ name e, f = .lookup name e → known e) : E.EndsWell known W ((throw f : Check σ α) >>= k) :=
  EndsWell.bind (V := fun _ => False) (endsWell_throw hf hknown) fun _ => False.elim

/-- What follows a probe may fail for the errors that it tells of. -/
lemma Reports.bind {p : Probe σ α} {k : α → Check σ β} {err : α → DnsError → Prop} (hp : E.Reports err p)
    (hk : ∀ a, E.EndsWell (fun e => known e ∨ err a e) W (k a)) : E.EndsWell known W (liftM p >>= k) := by
  intro s
  obtain ⟨t, hs, herr⟩ := hp s
  rw [Check.runFrom_bind_ok (Check.runFrom_lift p s)]
  obtain ⟨t', ht'⟩ := hk (p.runFrom s).1 (p.runFrom s).2
  refine ⟨t' ++ t, ?_, ht'.value, ht'.expected, fun e => ?_⟩
  · rw [ht'.replays, hs, Session.replay_append]
  · rcases ht'.answered e with (h | h) | h
    · exact .inl h
    · exact .inr ((herr _ h).append_left t')
    · rw [hs] at h
      exact .inr h.append_right

/-- A probe by itself cannot fail. -/
lemma Asks.endsWell {n : Nat} {p : Probe σ α} (hp : E.Asks n p) : E.EndsWell known (fun _ => True) (liftM p) := by
  intro s
  obtain ⟨qs, -, hs⟩ := hp s
  exact ⟨qs.map .asked, hs, fun _ => trivial, nofun, nofun⟩

/-- To enter a level cannot fail. -/
lemma endsWell_enter (domain : Text) (depth : Nat) :
    E.EndsWell known (fun _ => True) (Check.enter domain depth) :=
  fun _ => ⟨[.entered domain depth], rfl, fun _ => trivial, nofun, nofun⟩

/-- A charge fails only for the limit of lookups, which is expected. -/
lemma endsWell_charge : E.EndsWell known (fun _ => True) Check.charge := by
  intro s
  rw [Session.runFrom_charge E.resolver]
  split
  · exact ⟨[.charged], rfl, fun _ => trivial, nofun, nofun⟩
  · exact endsWell_throw (f := .lookupLimit s.budget.maxLookups) rfl nofun s

/-- To count an empty answer fails only for the limit of those, which is expected. -/
lemma endsWell_recordVoid : E.EndsWell known (fun _ => True) Check.recordVoid := by
  intro s
  rw [Session.runFrom_recordVoid E.resolver]
  split
  · exact ⟨[.void], rfl, fun _ => trivial, nofun, nofun⟩
  · exact ⟨[.void], rfl, nofun, fun e => Except.error.inj e ▸ rfl, nofun⟩

/-! ## Probes and checks -/

/-- An empty answer is counted, and the check goes on. -/
lemma recordVoid_bind_endsWell {a : α} (h : V a) :
    E.EndsWell known V (Check.recordVoid >>= fun _ => pure a) :=
  endsWell_recordVoid.bind fun _ _ => endsWell_pure h

/-- A target that was checked expands. -/
lemma targetDomain_endsWell (r : Request) {target : Text} (h : Template.check .domain target = .ok ()) :
    E.EndsWell known (fun _ => True) (E.targetDomain r target) := by
  intro s
  have hsends : E.EndsWell known (fun _ => True) (liftM (E.expandDomain r target)) :=
    (expandDomain_asks r target).endsWell
  obtain ⟨t, ht⟩ := hsends s
  obtain ⟨name, hrun⟩ := E.exists_expandDomain_eq r target s
  obtain ⟨p, hp, -⟩ := exists_of_map_eq_ok h
  rw [Template.expand, hp] at hrun
  rw [targetDomain, Check.runFrom_bind_ok (Check.runFrom_lift _ s), hrun]
  refine ⟨t, ht.replays, fun _ => trivial, ?_, ?_⟩
  · intro f h
    cases h
  · intro name e h
    cases h

/-- A target that was checked, or none, has a domain. -/
lemma domainOrOwn_endsWell (r : Request) {target : Option Text}
    (h : ∀ t ∈ target, Template.check .domain t = .ok ()) :
    E.EndsWell known (fun _ => True) (E.domainOrOwn r target) := by
  cases target with
  | some target => exact targetDomain_endsWell r (h target rfl)
  | none => exact endsWell_pure trivial

/-- A policy that is selected among texts is well formed. -/
lemma wellFormed_of_ofAnswers {texts : List Text} {found : Option Policy} (h : Policy.ofAnswers texts = .ok found) :
    ∀ p ∈ found, p.WellFormed := by
  obtain ⟨selected, -, h⟩ := exists_of_bind_eq_ok h
  cases selected with
  | none =>
    obtain rfl := Except.ok.inj h
    exact nofun
  | some t =>
    obtain ⟨p, hp, h⟩ := exists_of_bind_eq_ok h
    obtain rfl := Except.ok.inj h
    rintro _ ⟨⟩
    exact Policy.wellFormed_of_parse hp

/-- A policy that a domain publishes is well formed. -/
lemma policyAt_endsWell (domain : Text) :
    E.EndsWell known (fun found => ∀ p ∈ found, p.WellFormed) (E.policyAt domain) := by
  refine (reports_ask _).bind fun answer => ?_
  split
  · next e he => exact endsWell_throw_lookup he _
  · split
    · next hfound => exact endsWell_pure (wellFormed_of_ofAnswers hfound)
    · exact endsWell_throw rfl nofun

/-- Looking up addresses fails for the error of its answer, or for too many empty ones. -/
lemma countedAddresses_endsWell (name : Text) (client : Address) :
    E.EndsWell known (fun _ => True) (E.countedAddresses name client) := by
  refine (addresses_reports name client).bind fun answer => ?_
  split
  · exact recordVoid_bind_endsWell trivial
  · exact recordVoid_bind_endsWell trivial
  · exact endsWell_pure trivial
  · next e hne => exact endsWell_throw (DnsError.isTransient_of_ne hne) (by rintro _ _ ⟨⟩; exact .inr rfl)

/-- Comparing the addresses of a name fails only as looking them up does. -/
lemma nearName_endsWell (name : Text) (lengths : Lengths) (client : Address) :
    E.EndsWell known (fun _ => True) (E.nearName name lengths client) :=
  (countedAddresses_endsWell name client).bind fun _ _ => endsWell_pure trivial

/-- Trying exchanges fails for the limit of lookups, or as a comparison of addresses does. -/
lemma nearExchange_endsWell (lengths : Lengths) (client : Address) (xs : List Exchange) :
    E.EndsWell known (fun _ => True) (E.nearExchange lengths client xs) := by
  induction xs with
  | nil => exact endsWell_pure trivial
  | cons x xs ih =>
    refine endsWell_charge.bind fun _ _ => (nearName_endsWell x.name lengths client).bind fun near _ => ?_
    split
    · exact endsWell_pure trivial
    · exact ih

/-- Looking up exchanges fails for the error of its answer, for too many of them, or as trying them does. -/
lemma nearAnyExchange_endsWell (domain : Text) (lengths : Lengths) (client : Address) :
    E.EndsWell known (fun _ => True) (E.nearAnyExchange domain lengths client) := by
  refine (reports_ask _).bind fun answer => ?_
  split
  · next e he => exact endsWell_throw_lookup he _
  · exact recordVoid_bind_endsWell trivial
  · split
    · exact throw_bind_endsWell rfl (by rintro _ _ ⟨⟩)
    · exact nearExchange_endsWell _ _ _

/-- Comparing the names of the client fails at worst for too many empty answers. -/
lemma namedBelow_endsWell (domain : Text) (client : Address) :
    E.EndsWell known (fun _ => True) (E.namedBelow domain client) := by
  refine (reverseNames_asks client).endsWell.bind fun names _ => ?_
  split
  · exact endsWell_pure trivial
  · exact recordVoid_bind_endsWell trivial
  · exact (confirmed_asks client _).endsWell.bind fun _ _ => endsWell_pure trivial

/-- Looking for an address fails for the error of its answer, or for too many empty ones. -/
lemma hasAddress_endsWell (domain : Text) : E.EndsWell known (fun _ => True) (E.hasAddress domain) := by
  refine (reports_ask _).bind fun answer => ?_
  split
  · exact recordVoid_bind_endsWell trivial
  · exact endsWell_pure trivial
  · next e he => exact endsWell_throw_lookup he _

/-! ## Levels -/

section

variable {nested : Request → Check σ Evaluation} {explainer : Explainer σ}
  (hnested : ∀ r, E.EndsWell known (fun e => e.verdict.isError = false) (nested r))

include hnested

/-- To include a level fails as the level does, or because it has no policy. -/
lemma passedBy_endsWell (r : Request) (domain : Text) :
    E.EndsWell known (fun _ => True) (passedBy nested r domain) := by
  refine (hnested (r.descend domain)).bind fun evaluation _ => ?_
  split
  · exact endsWell_pure trivial
  · exact endsWell_throw rfl nofun
  · exact endsWell_pure trivial

/-- A well-formed mechanism ends well if the level that it may include does. -/
lemma matchesClient_endsWell (r : Request) {m : Mechanism} (hm : m.WellFormed) :
    E.EndsWell known (fun _ => True) (E.matchesClient nested r m) := by
  cases m with
  | all => exact endsWell_pure trivial
  | includes target =>
    exact endsWell_charge.bind fun _ _ => (targetDomain_endsWell r (check_of_checkTarget hm.checked)).bind
      fun domain _ => passedBy_endsWell hnested r domain
  | a target lengths =>
    exact endsWell_charge.bind fun _ _ =>
      (domainOrOwn_endsWell r fun t ht => check_of_checkTarget (hm.1 t ht).checked).bind
        fun domain _ => nearName_endsWell domain lengths r.client
  | mx target lengths =>
    exact endsWell_charge.bind fun _ _ =>
      (domainOrOwn_endsWell r fun t ht => check_of_checkTarget (hm.1 t ht).checked).bind
        fun domain _ => nearAnyExchange_endsWell domain lengths r.client
  | ptr target =>
    exact endsWell_charge.bind fun _ _ =>
      (domainOrOwn_endsWell r fun t ht => check_of_checkTarget (hm t ht).checked).bind
        fun domain _ => namedBelow_endsWell domain r.client
  | ip4 network length => exact endsWell_pure trivial
  | ip6 network length => exact endsWell_pure trivial
  | existing target =>
    exact endsWell_charge.bind fun _ _ => (targetDomain_endsWell r (check_of_checkTarget hm.checked)).bind
      fun domain _ => hasAddress_endsWell domain

/-- Well-formed directives end well, however many are tried. -/
lemma firstMatch_endsWell (r : Request) {ds : List Directive} (hds : ∀ d ∈ ds, d.mechanism.WellFormed) :
    E.EndsWell known (fun _ => True) (E.firstMatch nested r ds) := by
  induction ds with
  | nil => exact endsWell_pure trivial
  | cons d ds ih =>
    refine (matchesClient_endsWell hnested r (hds d List.mem_cons_self)).bind fun found _ => ?_
    split
    · exact endsWell_pure trivial
    · exact ih fun d' hd' => hds d' (List.mem_cons_of_mem d hd')

/-- A redirection ends well with what it hands over to, or fails because that has no policy. -/
lemma redirected_endsWell (r : Request) {target : Text} (h : Template.check .domain target = .ok ()) :
    E.EndsWell known (fun e => e.verdict.isError = false) (E.redirected nested r target) := by
  refine endsWell_charge.bind fun _ _ => (targetDomain_endsWell r h).bind fun domain _ => ?_
  refine (hnested (r.descend domain)).bind fun evaluation hevaluation => ?_
  split
  · exact throw_bind_endsWell rfl (by rintro _ _ ⟨⟩)
  · exact endsWell_pure hevaluation

/-- A well-formed policy decides on a verdict that is no error, or fails as expected. -/
lemma decide_endsWell {n : Nat} (hexplainer : ∀ p r, E.Asks n (explainer p r)) (r : Request) {p : Policy}
    (hp : p.WellFormed) :
    E.EndsWell known (fun e => e.verdict.isError = false) (E.decide explainer nested r p) := by
  have hdirectives : ∀ d ∈ p.directives, d.mechanism.WellFormed := fun d hd => hp.wellFormed_of_mem_directives hd
  refine (firstMatch_endsWell hnested r hdirectives).bind fun found _ => ?_
  split
  · next d =>
    have hdecision : d.qualifier.verdict.isError = false := Qualifier.isError_verdict d.qualifier
    split
    · exact (hexplainer p r).endsWell.bind fun _ _ => endsWell_pure hdecision
    · exact (endsWell_pure (V := fun _ => True) trivial).bind fun _ _ => endsWell_pure hdecision
  · split
    · next target htarget => exact redirected_endsWell hnested r (hp.check_of_redirect? htarget)
    · exact endsWell_pure rfl

/-- A level ends well if the levels nested in it do. -/
lemma level_endsWell {n : Nat} (hexplainer : ∀ p r, E.Asks n (explainer p r)) (r : Request) :
    E.EndsWell known (fun e => e.verdict.isError = false) (E.level explainer nested r) := by
  rw [level_eq]
  refine (endsWell_enter r.domain r.depth).bind fun _ _ => ?_
  refine EndsWell.bind (V := fun _ => True) ?_ fun _ _ => ?_
  · rw [admitDepth]
    split
    · exact endsWell_throw rfl (by rintro _ _ ⟨⟩)
    · exact endsWell_pure trivial
  · rw [admitted]
    split
    · exact endsWell_pure rfl
    · refine (policyAt_endsWell r.domain).bind fun found hfound => ?_
      cases found with
      | none => exact endsWell_pure rfl
      | some p => exact decide_endsWell hnested hexplainer r (hfound p rfl)

end

/-! ## Evaluations -/

/-- Levels end well, however deep they may nest. -/
lemma nest_endsWell {explainer : Explainer σ} {m : Nat} (hexplainer : ∀ p r, E.Asks m (explainer p r)) (n : Nat)
    (r : Request) : E.EndsWell known (fun e => e.verdict.isError = false) (E.nest explainer n r) := by
  induction n generalizing r with
  | zero =>
    refine level_endsWell (fun _ => ?_) hexplainer r
    exact fun s => endsWell_throw (f := .lookupLimit s.budget.maxLookups) rfl nofun s
  | succ n ih => exact level_endsWell ih hexplainer r

/-- An evaluation ends well, and every error of a lookup was an answer to one of its queries. -/
lemma evaluate_endsWell (r : Request) :
    E.EndsWell (fun _ => False) (fun e => e.verdict.isError = false) (E.evaluate r) :=
  fun s => nest_endsWell explain_asks s.budget.remaining r s

/-- The ends of an evaluation. It decides, or fails for a reason that is expected: never for a target that does not
expand or a name that does not exist, and for a lookup only if some query was answered so. -/
theorem evaluate_ends (E : Engine σ) (r : Request) (s : Session σ) :
    let ending := (E.evaluate r).runFrom s
    ∃ t, ending.2 = s.replay E.resolver t ∧
      (∀ e, ending.1 = .ok e → e.verdict ∈ [.pass, .fail, .softFail, .neutral, .none]) ∧
      (∀ f, ending.1 = .error f → f.isExpected = true) ∧
      (∀ name, ending.1 ≠ .error (.lookup name .noSuchDomain)) ∧
      (∀ e, ending.1 ≠ .error (.template e)) ∧
      (conclude r ending.1 ending.2).verdict ≠ .invalid ∧
      ((conclude r ending.1 ending.2).verdict = .tempError →
        ∃ e, e.isTransient = true ∧ s.Answered E.resolver t e) := by
  intro ending
  obtain ⟨t, ht⟩ := evaluate_endsWell (E := E) r s
  refine ⟨t, ht.replays, fun e he => ?_, fun f hf => ht.expected hf, fun name h => ?_, fun e h => ?_, ?_⟩
  · exact Verdict.mem_of_isError (ht.value he)
  · cases ht.expected h
  · cases ht.expected h
  · cases hx : ending.1 with
    | ok e =>
      have hverdict : (conclude r (.ok e) ending.2).verdict = e.verdict := rfl
      obtain ⟨hinvalid, htemp⟩ := Verdict.ne_of_isError (ht.value hx)
      rw [hverdict]
      exact ⟨hinvalid, fun h => absurd h htemp⟩
    | error f =>
      have hf := ht.expected hx
      refine ⟨Failure.verdict_ne_invalid hf, fun h => ?_⟩
      -- only a lookup that may be tried again fails for the time being, and its error was an answer
      obtain ⟨name, e, rfl, he⟩ := Failure.eq_lookup_of_verdict hf h
      exact ⟨e, he, (ht.answered hx).resolve_left id⟩

/-- An evaluation of a policy whose inclusion is not answered in time ends as the resolver did. -/
theorem evaluate_ends_timeout :
    let E : Engine Unit :=
      { resolver := .fixed fun
          | .txt name =>
            if name = "a.example".toList then .ok ["v=spf1 mx include:%{d2}.b.example -all".toList] else .error .timeout
          | _ => .error .noSuchDomain
        options := {}
        now := 0 }
    let r : Request := ⟨"u@a.example".toList, "a.example".toList, .v4 ⟨1⟩, "a.example".toList, 0⟩
    let s : Session Unit := .start (.fresh 10 2) ()
    ((E.evaluate r).runFrom s).1 = .error (.lookup "a.example.b.example".toList .timeout) ∧
      ∃ t e, ((E.evaluate r).runFrom s).2 = s.replay E.resolver t ∧ e.isTransient = true ∧
        s.Answered E.resolver t e := by
  intro E r s
  have hend : ((E.evaluate r).runFrom s).1 = .error (.lookup "a.example.b.example".toList .timeout) := by
    decide +kernel
  obtain ⟨t, ht, -, -, -, -, -, htemp⟩ := evaluate_ends E r s
  obtain ⟨e, he, hanswered⟩ := htemp (by rw [hend]; rfl)
  exact ⟨hend, t, e, ht, he, hanswered⟩

end Engine

end SenderPolicy
