import SenderPolicy.Proofs.NamesBelow
import SenderPolicy.Proofs.QueriedNames

/-!
# Confirmed names

Of the reverse names that an answer tells, as many are looked at as the options allow. Each of these is asked for once,
in order, and is confirmed if its answer has the client's address among its records (`Engine.Confirmed`). What else the
answers are makes no difference: no query for a name fails a check or counts for its budget.

The mechanism for reverse names matches if a confirmed name is the target or lies below it, and only an empty answer to
the query for the reverse names themselves counts (`matchesClient_ptr`).
-/

namespace SenderPolicy

variable {σ : Type}

/-! ## Queries for addresses -/

/-- The query for the addresses of a name in the family of the client. -/
def Query.forward : Address → Text → Query
  | .v4 _, name => .a name
  | .v6 _, name => .aaaa name

/-- Different names have different queries for their addresses. -/
lemma Query.forward_injective {client : Address} {m n : Text} (h : forward client m = forward client n) : m = n := by
  cases client with
  | v4 a => exact Query.a.inj h
  | v6 a => exact Query.aaaa.inj h

/-- The answer has the address among its records. -/
def Answer.lists (client : Address) : {q : Query} → Answer q → Bool
  | .a _, .ok found => (found.map Address.v4).contains client
  | .aaaa _, .ok found => (found.map Address.v6).contains client
  | _, _ => false

/-- The queries for the addresses of names, one name after the other. As in a journal, the last one is first. -/
def forwards (client : Address) (names : List Text) : List Event :=
  (names.map fun name => .asked (.forward client name)).reverse

/-- The first name is asked for first. -/
lemma forwards_cons (client : Address) (name : Text) (names : List Text) :
    forwards client (name :: names) = forwards client names ++ [.asked (.forward client name)] := by
  rw [forwards, List.map_cons, List.reverse_cons, forwards]

/-- The names of a list that lead back to the client, when they are asked for one after the other from a session on. -/
def Resolver.leadingBack (R : Resolver σ) (client : Address) : List Text → Session σ → List Text
  | [], _ => []
  | name :: names, s =>
    let later := R.leadingBack client names (s.after R (.asked (.forward client name)))
    if Answer.lists client (R.ask (.forward client name) s.resolver).1 then name :: later else later

namespace Session

variable {R : Resolver σ} {s : Session σ} {t : List Event} {q first : Query} {answer : Answer q}

/-- What was answered after a first query was answered to that query, or since. -/
lemma exchanged_append_asked_iff :
    s.Exchanged R (t ++ [.asked first]) q answer ↔
      (⟨q, answer⟩ : (q : Query) × Answer q) = ⟨first, (R.ask first s.resolver).1⟩ ∨
        (s.after R (.asked first)).Exchanged R t q answer := by
  constructor
  · rintro ⟨u, v, ht, hanswer⟩
    rcases List.eq_nil_or_concat u with rfl | ⟨u, e, rfl⟩
    · obtain ⟨-, heq⟩ := List.append_inj' ht rfl
      obtain rfl := Event.asked.inj (List.singleton_inj.mp heq)
      obtain rfl := hanswer
      exact .inl rfl
    · rw [List.concat_eq_append, ← List.cons_append, ← List.append_assoc] at ht
      obtain ⟨rfl, heq⟩ := List.append_inj' ht rfl
      obtain rfl := List.singleton_inj.mp heq
      rw [List.concat_eq_append, replay_append] at hanswer
      exact .inr ⟨u, v, rfl, hanswer⟩
  · rintro (heq | hlater)
    · cases heq
      exact Exchanged.append_left (t := [.asked q]) ⟨[], [], rfl, rfl⟩ t
    · exact Exchanged.append_right (t := [.asked first]) hlater

end Session

/-- The names that lead back are those for which an answer had the client's address. -/
lemma Resolver.mem_leadingBack {R : Resolver σ} {client : Address} {name : Text} {names : List Text} {s : Session σ} :
    name ∈ R.leadingBack client names s ↔
      ∃ found, s.Exchanged R (forwards client names) (.forward client name) found ∧
        Answer.lists client found = true := by
  induction names generalizing s with
  | nil =>
    refine iff_of_false List.not_mem_nil ?_
    rintro ⟨found, ⟨u, v, ht, -⟩, -⟩
    cases v <;> cases ht
  | cons first names ih =>
    -- names have queries of their own, so what the first query is answered is about the first name only
    have hfirst : (∃ found : Answer (.forward client name), (⟨.forward client name, found⟩ : (q : Query) × Answer q) =
        ⟨.forward client first, (R.ask (.forward client first) s.resolver).1⟩ ∧ Answer.lists client found = true) ↔
        name = first ∧ Answer.lists client (R.ask (.forward client first) s.resolver).1 = true := by
      constructor
      · rintro ⟨found, heq, hlists⟩
        obtain rfl := Query.forward_injective (congrArg Sigma.fst heq)
        obtain rfl := eq_of_heq (Sigma.mk.inj heq).2
        exact ⟨rfl, hlists⟩
      · rintro ⟨rfl, hlists⟩
        exact ⟨_, rfl, hlists⟩
    rw [forwards_cons]
    simp only [Session.exchanged_append_asked_iff, or_and_right, exists_or, hfirst, ← ih]
    rw [leadingBack]
    split
    · next hlists => rw [List.mem_cons, and_iff_left hlists]
    · next hlists => rw [or_iff_right fun h => hlists h.2]

/-- The names that lead back are among those that are asked for. -/
lemma Resolver.leadingBack_subset {R : Resolver σ} {client : Address} {names : List Text} {s : Session σ} :
    R.leadingBack client names s ⊆ names := by
  induction names generalizing s with
  | nil => exact List.Subset.refl _
  | cons name names ih =>
    rw [leadingBack]
    split
    · exact List.cons_subset_cons name ih
    · exact List.subset_cons_of_subset name ih

/-- Where answers never change, the names lead back that have the client's address. -/
lemma Resolver.leadingBack_fixed (answers : (q : Query) → Answer q) (client : Address) (names : List Text)
    (s : Session Unit) :
    (Resolver.fixed answers).leadingBack client names s =
      names.filter fun name => Answer.lists client (answers (.forward client name)) := by
  induction names generalizing s with
  | nil => rfl
  | cons name names ih =>
    rw [leadingBack, ih, List.filter_cons]
    rfl

/-- Queries for addresses leave the counters alone. -/
lemma budget_replay_forwards {R : Resolver σ} {client : Address} (names : List Text) (s : Session σ) :
    (s.replay R (forwards client names)).budget = s.budget := by
  induction names generalizing s with
  | nil => rfl
  | cons name names ih =>
    rw [forwards_cons, Session.replay_append, ih]
    rfl

namespace Engine

variable {E : Engine σ}

/-! ## Confirmed names -/

/-- A name is confirmed by one query: its answer has to have the client's address. -/
lemma confirms_runFrom (client : Address) (name : Text) (s : Session σ) :
    (E.confirms client name).runFrom s =
      (Answer.lists client (E.resolver.ask (.forward client name) s.resolver).1,
        s.after E.resolver (.asked (.forward client name))) := by
  cases client with
  | v4 a =>
    show (E.confirms (.v4 a) name).runFrom s = (Answer.lists (.v4 a) (E.resolver.ask (.a name) s.resolver).1, _)
    rw [confirms, addresses, Probe.runFrom_bind, Probe.runFrom_bind, Session.runFrom_ask]
    cases (E.resolver.ask (.a name) s.resolver).1 with
    | ok found => rfl
    | error e => rfl
  | v6 a =>
    show (E.confirms (.v6 a) name).runFrom s = (Answer.lists (.v6 a) (E.resolver.ask (.aaaa name) s.resolver).1, _)
    rw [confirms, addresses, Probe.runFrom_bind, Probe.runFrom_bind, Session.runFrom_ask]
    cases (E.resolver.ask (.aaaa name) s.resolver).1 with
    | ok found => rfl
    | error e => rfl

/-- The names that lead back are put before those that were kept, and each name is asked for once. -/
lemma filterAuxM_confirms_runFrom (client : Address) (names kept : List Text) (s : Session σ) :
    (names.filterAuxM (E.confirms client) kept).runFrom s =
      ((E.resolver.leadingBack client names s).reverse ++ kept, s.replay E.resolver (forwards client names)) := by
  induction names generalizing kept s with
  | nil => rfl
  | cons name names ih =>
    rw [List.filterAuxM, Probe.runFrom_bind, confirms_runFrom, ih, forwards_cons, Session.replay_append,
      Resolver.leadingBack]
    cases Answer.lists client (E.resolver.ask (.forward client name) s.resolver).1 with
    | true => simp
    | false => simp

/-- Each name that is looked at is asked for once, in order. -/
lemma confirmed_runFrom (client : Address) (names : List Text) (s : Session σ) :
    (E.confirmed client names).runFrom s =
      (E.resolver.leadingBack client (names.take E.options.maxPtrNames) s,
        s.replay E.resolver (forwards client (names.take E.options.maxPtrNames))) := by
  rw [confirmed, List.filterM, Probe.runFrom_bind, filterAuxM_confirms_runFrom, List.append_nil]
  exact Prod.ext (List.reverse_reverse _) rfl

section

variable (E : Engine σ) (client : Address) (s : Session σ)

/-- What the query for the reverse names of the client is answered. -/
def reverseAnswer : Answer (.ptr client) :=
  (E.resolver.ask (.ptr client) s.resolver).1

/-- The session after that query. -/
def afterReverse : Session σ :=
  s.after E.resolver (.asked (.ptr client))

/-- The reverse names that are looked at. -/
def candidates : List Text :=
  (E.reverseAnswer client s).names.take E.options.maxPtrNames

/-- The name is looked at, and a query for its addresses is answered with the client's among them. -/
def Confirmed (name : Text) : Prop :=
  name ∈ E.candidates client s ∧
    ∃ found, (E.afterReverse client s).Exchanged E.resolver (forwards client (E.candidates client s))
      (.forward client name) found ∧ Answer.lists client found = true

/-- The confirmed names, in the order in which they are listed. -/
def confirmedNames : List Text :=
  E.resolver.leadingBack client (E.candidates client s) (E.afterReverse client s)

end

variable {client : Address} {s : Session σ}

/-- The confirmed names are those that are confirmed. -/
lemma mem_confirmedNames {name : Text} : name ∈ E.confirmedNames client s ↔ E.Confirmed client s name := by
  rw [Confirmed, ← Resolver.mem_leadingBack, confirmedNames]
  exact (and_iff_right_of_imp fun h => Resolver.leadingBack_subset h).symm

/-- Where answers never change, a name is confirmed if it is looked at and has the client's address. -/
lemma confirmed_fixed_iff {answers : (q : Query) → Answer q} {E : Engine Unit} (hE : E.resolver = .fixed answers)
    {s : Session Unit} {name : Text} :
    E.Confirmed client s name ↔
      name ∈ E.candidates client s ∧ Answer.lists client (answers (.forward client name)) = true := by
  rw [← mem_confirmedNames, confirmedNames, hE, Resolver.leadingBack_fixed, List.mem_filter]

/-- The reverse names are the records of the answer to one query. -/
lemma reverseNames_runFrom (client : Address) (s : Session σ) :
    (E.reverseNames client).runFrom s = ((E.reverseAnswer client s).records.toOption, E.afterReverse client s) := by
  rw [reverseNames_eq]
  rfl

/-- The validated name is the preferred one of the confirmed names. -/
lemma validatedName_runFrom (r : Request) (s : Session σ) :
    (E.validatedName r).runFrom s = (preferred r.domain (E.confirmedNames r.client s),
      (E.afterReverse r.client s).replay E.resolver (forwards r.client (E.candidates r.client s))) := by
  rw [validatedName, Probe.runFrom_bind, reverseNames_runFrom, Probe.runFrom_bind, confirmed_runFrom, confirmedNames,
    candidates, Answer.names_eq]
  rfl

/-! ## The mechanism for reverse names -/

/-- An empty answer counts, whatever the domain is. -/
lemma namedBelow_runFrom_void (h : (E.reverseAnswer client s).records = .ok []) (domain : Text) :
    (E.namedBelow domain client).runFrom s =
      (if s.budget.voids < s.budget.maxVoids then .ok false else .error (.voidLimit s.budget.maxVoids),
        (E.afterReverse client s).after E.resolver .void) := by
  have hvoid : (Check.recordVoid : Check σ Unit).runFrom (E.afterReverse client s) =
      if s.budget.voids < s.budget.maxVoids then (.ok (), (E.afterReverse client s).after E.resolver .void)
      else (.error (.voidLimit s.budget.maxVoids), (E.afterReverse client s).after E.resolver .void) :=
    Session.runFrom_recordVoid E.resolver _
  rw [namedBelow, Check.runFrom_bind_ok (Check.runFrom_lift _ s), reverseNames_runFrom, h]
  by_cases hleft : s.budget.voids < s.budget.maxVoids
  · rw [if_pos hleft] at hvoid ⊢
    exact Check.runFrom_bind_ok hvoid
  · rw [if_neg hleft] at hvoid ⊢
    exact Check.runFrom_bind_error hvoid

/-- Any other answer, also a failure, leaves the counters alone, and so do the answers to the queries for addresses. -/
lemma namedBelow_runFrom (h : (E.reverseAnswer client s).records ≠ .ok []) (domain : Text) :
    (E.namedBelow domain client).runFrom s =
      (.ok ((E.confirmedNames client s).any (DomainName.isSameOrBelow · domain)),
        (E.afterReverse client s).replay E.resolver (forwards client (E.candidates client s))) := by
  rw [namedBelow, Check.runFrom_bind_ok (Check.runFrom_lift _ s), reverseNames_runFrom, confirmedNames, candidates,
    Answer.names_eq]
  cases hrecords : (E.reverseAnswer client s).records with
  | error e =>
    have hnone : (([] : List Text).take E.options.maxPtrNames) = [] := List.take_nil
    simp only [Except.toOption, Option.getD_none, hnone]
    rfl
  | ok names =>
    cases names with
    | nil => exact absurd hrecords h
    | cons name names =>
      have hrun := confirmed_runFrom (E := E) client (name :: names) (E.afterReverse client s)
      refine (Check.runFrom_bind_ok (Check.runFrom_lift _ _)).trans ?_
      rw [hrun]
      rfl

/-- There are no records if an answer is empty, or says that the name does not exist. -/
lemma records_eq_nil_iff {q : Query} {answer : Answer q} :
    answer.records = .ok [] ↔ answer = .ok [] ∨ answer = .error .noSuchDomain := by
  rcases answer with (_ | _ | _ | _ | _) | records
  all_goals simp [Answer.records]

/-- Once its lookup is charged and its domain is known, the mechanism for reverse names matches exactly if a confirmed
name is the domain or lies below it. It fails exactly if the answer to the query for the reverse names is empty, or that
there are none, and no more empty answers are allowed. Any other answer leaves the counters as they are. The addresses
of each name that is looked at are asked for once, and it is not counted if there are none or if the query fails. -/
theorem matchesClient_ptr (E : Engine σ) (nested : Request → Check σ Evaluation) (r : Request) (target : Option Text)
    {s s₁ s₂ : Session σ} {domain : Text} (hcharge : Check.charge.runFrom s = (.ok (), s₁))
    (hdomain : (E.domainOrOwn r target).runFrom s₁ = (.ok domain, s₂)) :
    let answer := E.reverseAnswer r.client s₂
    let run := (E.matchesClient nested r (.ptr target)).runFrom s
    (run.1 = .ok true ↔
        ∃ name, E.Confirmed r.client s₂ name ∧ (DomainName.IsSame domain name ∨ DomainName.IsBelow domain name)) ∧
      (∀ f, run.1 = .error f ↔ (answer = .ok [] ∨ answer = .error .noSuchDomain) ∧
        s₂.budget.maxVoids ≤ s₂.budget.voids ∧ f = .voidLimit s₂.budget.maxVoids) ∧
      (answer = .ok [] ∨ answer = .error .noSuchDomain → run.2 = (E.afterReverse r.client s₂).after E.resolver .void) ∧
      (¬(answer = .ok [] ∨ answer = .error .noSuchDomain) → run.2.budget = s₂.budget ∧
        run.2 = (E.afterReverse r.client s₂).replay E.resolver (forwards r.client (E.candidates r.client s₂))) := by
  intro answer run
  have hrun : run = (E.namedBelow domain r.client).runFrom s₂ := by
    simp only [run]
    rw [matchesClient, Check.runFrom_bind_ok hcharge, Check.runFrom_bind_ok hdomain]
  rw [← records_eq_nil_iff]
  by_cases hvoid : answer.records = .ok []
  · -- without reverse names nothing is confirmed, and only the count of empty answers decides
    have hnone : E.candidates r.client s₂ = [] := by
      rw [candidates, Answer.names_eq, hvoid]
      exact List.take_nil
    rw [hrun, namedBelow_runFrom_void hvoid]
    refine ⟨iff_of_false ?_ ?_, fun f => ?_, fun _ => rfl, fun h => absurd hvoid h⟩
    · split
      · nofun
      · nofun
    · rintro ⟨name, ⟨hname, -⟩, -⟩
      rw [hnone] at hname
      cases hname
    · rw [and_iff_right hvoid]
      split
      · next hleft => exact iff_of_false nofun fun h => Nat.not_le.mpr hleft h.1
      · next hleft =>
        rw [and_iff_right (Nat.not_lt.mp hleft), Except.error.injEq]
        exact eq_comm
  · rw [hrun, namedBelow_runFrom hvoid]
    refine ⟨?_, fun f => iff_of_false nofun fun h => hvoid h.1, fun h => absurd h hvoid, fun _ => ⟨?_, rfl⟩⟩
    · rw [Except.ok.injEq, List.any_eq_true]
      exact exists_congr fun name => and_congr mem_confirmedNames DomainName.isSameOrBelow_iff
    · exact budget_replay_forwards _ _

/-- Reverse names of a client. The first one leads elsewhere, the second one nowhere, and the third one back. -/
def threeNames : (q : Query) → Answer q
  | .ptr _ =>
    .ok ["spoofed.a.example".toList, "lost.a.example".toList, "MX.A.example.".toList, "late.a.example".toList]
  | .a name =>
    if name = "MX.A.example.".toList ∨ name = "late.a.example".toList then .ok [⟨7⟩, ⟨1⟩]
    else if name = "spoofed.a.example".toList then .ok [⟨7⟩]
    else .error .serverFailure
  | _ => .error .noSuchDomain

/-- The third name counts if three are looked at, whatever became of the first two. -/
theorem matchesClient_ptr_threeNames :
    let E : Engine Unit := ⟨.fixed threeNames, { maxPtrNames := 3 }, 0⟩
    let r : Request := ⟨"u@a.example".toList, "a.example".toList, .v4 ⟨1⟩, "h.example".toList, 0⟩
    let nested : Request → Check Unit Evaluation := fun _ => throw (.depthLimit 0)
    let s : Session Unit := .start (.fresh 1 0) ()
    let s₁ := s.after E.resolver .charged
    Check.charge.runFrom s = (.ok (), s₁) ∧
      (E.domainOrOwn r none).runFrom s₁ = (.ok "a.example".toList, s₁) ∧
      ((E.matchesClient nested r (.ptr none)).runFrom s).1 = .ok true := by
  intro E r nested s s₁
  have hcharge : Check.charge.runFrom s = (.ok (), s₁) := rfl
  have hdomain : (E.domainOrOwn r none).runFrom s₁ = (.ok "a.example".toList, s₁) := rfl
  refine ⟨hcharge, hdomain, ?_⟩
  refine (matchesClient_ptr E nested r none hcharge hdomain).1.mpr ⟨"MX.A.example.".toList, ?_, ?_⟩
  · exact (confirmed_fixed_iff rfl).mpr ⟨by decide +kernel, by decide +kernel⟩
  · exact .inr ⟨"mx".toList, by decide, by decide⟩

end Engine

end SenderPolicy
