import SenderPolicy.Checking
import SenderPolicy.Proofs.Explanations
import SenderPolicy.Proofs.Lockstep

/-!
# Queries for explanations

Each level that fails a request asks for the explanation of its policy, also where an inclusion makes something else of
the failure. An evaluation that notes these levels (`failures`) goes in step with the silent one, and the evaluation
with explanations only adds their queries.

So the queries are those of the silent evaluation if and only if no level that failed has an explanation that needs a
query, and in an evaluation that does not end in a failure all these levels are nested ones (`evaluate_queries_eq_iff`).
There the queries are for explanations that nobody gets to see (`evaluate_queries_unseen`).
-/

namespace SenderPolicy

variable {σ α : Type}

/-- The queries of a session are extended by the query of an event. -/
lemma Session.queries_after (R : Resolver σ) (s : Session σ) (e : Event) :
    (s.after R e).queries = s.queries ++ e.query?.toList := by
  have hreplay := s.queries_replay R [e]
  cases e <;> exact hreplay

/-! ## Notes -/

/-- The resolver with a list of notes beside its state, which answers leave alone. -/
def Resolver.withNotes (R : Resolver σ) (ν : Type) : Resolver (σ × List ν) where
  ask q s := ((R.ask q s.1).1, (R.ask q s.1).2, s.2)

/-- The session with a list of notes beside the state of its resolver. -/
def Session.withNotes {ν : Type} (s : Session σ) (notes : List ν) : Session (σ × List ν) :=
  ⟨(s.resolver, notes), s.budget, s.journal⟩

def Session.withoutNotes {ν : Type} (s : Session (σ × List ν)) : Session σ :=
  ⟨s.resolver.1, s.budget, s.journal⟩

/-- Events leave the notes alone. -/
lemma Session.notes_after {ν : Type} (R : Resolver σ) (s : Session (σ × List ν)) (e : Event) :
    (s.after (R.withNotes ν) e).resolver.2 = s.resolver.2 := by
  cases e <;> rfl

namespace Engine

/-- A level that failed: its policy and its request. -/
abbrev FailedLevel : Type :=
  Policy × Request

/-- The engine with room for notes of levels that failed. -/
def noted (E : Engine σ) : Engine (σ × List FailedLevel) where
  resolver := E.resolver.withNotes FailedLevel
  options := E.options
  now := E.now

/-- The explainer that also notes which policy failed which request. -/
def Explainer.noted (explainer : Explainer σ) : Explainer (σ × List FailedLevel) :=
  fun p r s =>
    let (explanation, t) := (explainer p r).runFrom s.withoutNotes
    (explanation, t.withNotes ((p, r) :: s.resolver.2))

/-- The explainer that sends no query, and notes which policy failed which request. -/
def noting : Explainer (σ × List FailedLevel) :=
  fun p r s => (none, { s with resolver := (s.resolver.1, (p, r) :: s.resolver.2) })

variable (E : Engine σ)

/-- The check of a request in which failed levels are noted. -/
def notedRun (r : Request) (state : σ) : Except Failure Evaluation × Session (σ × List FailedLevel) :=
  (E.noted.evaluateWith noting r).runFrom (E.noted.fresh (state, []))

/-- The levels that fail in the course of the check of a request, the last one first. -/
def failures (r : Request) (state : σ) : List FailedLevel :=
  (E.notedRun r state).2.resolver.2

/-- The queries that the explanation of a failed level needs. -/
def explanationQueries (state : σ) (f : FailedLevel) : List Query :=
  ((E.explain f.1 f.2).runFrom (E.fresh state)).2.queries

variable {E}

/-! ## Fixed answers, fixed queries -/

/-- Sessions that went on by the same queries from two given lists of them. -/
def sameTail (l₁ l₂ : List Query) : Correspondence σ σ where
  together s₁ s₂ := ∃ t, s₁.queries = l₁ ++ t ∧ s₂.queries = l₂ ++ t
  parted _ _ _ := False

/-- Where answers are fixed, the same query keeps the tails of both sessions the same. -/
lemma matches_ask_sameTail (hE : E.resolver.IsSteady) (l₁ l₂ : List Query) (q : Query) :
    Probe.Matches (sameTail l₁ l₂) Eq (Probe.ask E.resolver q) (Probe.ask E.resolver q) := by
  refine ⟨fun {s₁ s₂} _ => hE q s₁.resolver s₂.resolver, ?_, False.elim⟩
  rintro s₁ s₂ ⟨t, h₁, h₂⟩
  refine ⟨t ++ [q], ?_, ?_⟩
  · rw [Session.runFrom_ask, Session.queries_after, h₁, List.append_assoc]
    rfl
  · rw [Session.runFrom_ask, Session.queries_after, h₂, List.append_assoc]
    rfl

/-- Where answers are fixed, an engine gets the same answers after whatever queries. -/
lemma answersAlike_sameTail (hE : E.resolver.IsSteady) (l₁ l₂ : List Query) : AnswersAlike (sameTail l₁ l₂) E E where
  ask q _ := (matches_ask_sameTail hE l₁ l₂ q).mono .of_answer_eq
  maxPtrNames := rfl
  targets _ _ _ := rfl

/-- An explanation sends the same queries whenever it is asked for. -/
lemma queries_explain (hE : E.resolver.IsSteady) (state : σ) (p : Policy) (r : Request) (s : Session σ) :
    ((E.explain p r).runFrom s).2.queries = s.queries ++ E.explanationQueries state (p, r) := by
  have hexplain : Probe.Matches (sameTail s.queries []) Eq (E.explain p r) (E.explain p r) :=
    (answersAlike_sameTail hE s.queries []).explain (fun _ => rfl)
      (fun domain => (matches_ask_sameTail hE _ _ (.txt domain)).mono .of_eq) p r fun _ _ => rfl
  have hstart : (sameTail s.queries []).together s (E.fresh state) := ⟨[], (List.append_nil _).symm, rfl⟩
  obtain ⟨t, h₁, h₂⟩ := hexplain.together hstart
  rw [h₁, explanationQueries, h₂, List.nil_append]

/-! ## What notes tell of queries -/

/-- The state of the resolver is that beside the notes. -/
abbrev BesideNotes (a : σ) (b : σ × List FailedLevel) : Prop :=
  a = b.1

/-- A session beside one with notes is that one without them. -/
lemma eq_withoutNotes {s : Session σ} {t : Session (σ × List FailedLevel)}
    (h : (lockstep BesideNotes).together s t) : s = t.withoutNotes := by
  obtain ⟨hresolver, hbudget, hjournal⟩ := h
  rw [Session.withoutNotes, ← hresolver, ← hbudget, ← hjournal]

/-- An explainer that takes notes explains as it does without. -/
lemma matches_noted (explainer : Explainer σ) (p : Policy) (r : Request) :
    Probe.Matches (lockstep BesideNotes) Eq (explainer p r) (explainer.noted p r) := by
  refine ⟨fun h => ?_, fun h => ?_, False.elim⟩
  · rw [eq_withoutNotes h]
    rfl
  · rw [eq_withoutNotes h]
    exact ⟨rfl, rfl, rfl⟩

/-- An evaluation that takes notes does what the one without them does. -/
lemma evaluateWith_noted (E : Engine σ) (explainer : Explainer σ) (r : Request) (s : Session σ)
    (notes : List FailedLevel) :
    let noted := (E.noted.evaluateWith explainer.noted r).runFrom (s.withNotes notes)
    (E.evaluateWith explainer r).runFrom s = (noted.1, noted.2.withoutNotes) := by
  intro noted
  have hC : (lockstep BesideNotes).Inseparable E.resolver E.noted.resolver :=
    lockstep.inseparable E.resolver E.noted.resolver
  have hR : E.resolver.InStep BesideNotes E.noted.resolver := by
    refine ⟨fun q {a b} h => ?_, fun q {a b} h => ?_⟩
    · obtain rfl : a = b.1 := h
      rfl
    · obtain rfl : a = b.1 := h
      rfl
  have hagree : AgreeUpToOrder (lockstep BesideNotes) E E.noted :=
    agreeUpToOrder_of_inseparable hC (fun q => (lockstep.matches_ask hR q).mono Akin.of_answer_eq) rfl rfl
  have hends : Matched (lockstep BesideNotes) (Alike Eq) ((E.evaluateWith explainer r).runFrom s) noted :=
    hagree.evaluateWith hC (fun _ => rfl) ⟨rfl, rfl, rfl⟩ fun p r' _ => matches_noted explainer p r'
  obtain ⟨hresult, htogether⟩ := hends.result_eq hC.not_parted
  exact Prod.ext hresult (eq_withoutNotes htogether)

/-- The silent evaluation and the one that takes notes send the same queries. -/
lemma notedRun_silent (E : Engine σ) (r : Request) (state : σ) :
    (E.notedRun r state).2.queries = ((E.evaluateWith silent r).runFrom (E.fresh state)).2.queries := by
  rw [E.evaluateWith_noted silent r (E.fresh state) []]
  rfl

/-- The first session sent the queries of the second one in their order, and others in between for the explanations of
the levels that the second one notes. -/
def explaining (E : Engine σ) (state : σ) : Correspondence σ (σ × List FailedLevel) where
  together s₁ s₂ := s₁.budget = s₂.budget ∧ s₂.queries.Sublist s₁.queries ∧
    (s₁.queries = s₂.queries ↔ ∀ f ∈ s₂.resolver.2, E.explanationQueries state f = [])
  parted _ _ _ := False

namespace explaining

variable {state : σ}

/-- What happens to both sessions, except for queries, leaves the queries of the second among those of the first. -/
lemma inseparable (E : Engine σ) (state : σ) : (explaining E state).Inseparable E.resolver E.noted.resolver where
  budget_eq h := h.1
  not_parted h := h
  together_after := by
    rintro s₁ s₂ ⟨hbudget, hqueries⟩ e he
    refine ⟨(Correspondence.inseparable_sameBudget _ _).together_after hbudget e he, ?_⟩
    rw [Session.queries_after, Session.queries_after, noted, Session.notes_after, he]
    simpa using hqueries

/-- A query sent in both sessions is one more in both. -/
lemma matches_ask (hE : E.resolver.IsSteady) (q : Query) :
    Probe.Matches (explaining E state) (Akin q.Rearranged) (Probe.ask E.resolver q) (Probe.ask E.noted.resolver q) := by
  refine ⟨fun {s₁ s₂} _ => .of_answer_eq (hE q s₁.resolver s₂.resolver.1), ?_, False.elim⟩
  rintro s₁ s₂ ⟨hbudget, hsublist, heq⟩
  refine ⟨hbudget, ?_⟩
  rw [Session.runFrom_ask, Session.runFrom_ask, Session.queries_after, Session.queries_after, noted,
    Session.notes_after]
  exact ⟨hsublist.append_right _, List.append_left_inj _ |>.trans heq⟩

/-- An explanation adds its queries to the first session, where the second one takes a note. -/
lemma matches_explain (hE : E.resolver.IsSteady) (p : Policy) (r : Request) :
    Probe.Matches (explaining E state) (fun _ _ => True) (E.explain p r) (noting p r) := by
  refine ⟨fun _ => trivial, ?_, False.elim⟩
  rintro s₁ s₂ ⟨hbudget, hsublist, heq⟩
  refine ⟨((explain_asks p r).budget_eq s₁).trans hbudget, ?_⟩
  have hnotes : ((noting p r).runFrom s₂).2.resolver.2 = (p, r) :: s₂.resolver.2 := rfl
  have hqueries : ((noting p r).runFrom s₂).2.queries = s₂.queries := rfl
  rw [queries_explain hE state p r s₁, hnotes, hqueries, List.forall_mem_cons, ← heq]
  refine ⟨hsublist.trans (List.sublist_append_left _ _), fun h => ?_, ?_⟩
  · -- the first session has all the queries of the second, so there is nothing left to add
    have hnone : E.explanationQueries state (p, r) = [] := by
      have hlength := congrArg List.length h
      rw [List.length_append] at hlength
      exact List.eq_nil_of_length_eq_zero (by have := hsublist.length_le; omega)
    rw [hnone, List.append_nil] at h
    exact ⟨hnone, h⟩
  · rintro ⟨hnone, h⟩
    rw [hnone, List.append_nil, h]

end explaining

/-! ## Where failed levels are -/

/-- Two checks that do the same, unless the first one ends with a failure. -/
def SameUnlessFailed (c₁ c₂ : Check σ Evaluation) : Prop :=
  ∀ s, (∃ x, (c₁.runFrom s).1 = .ok ⟨.fail, x⟩) ∨ c₁.runFrom s = c₂.runFrom s

/-- Checks that go on after the same first part are the same unless failed if what follows is. -/
lemma SameUnlessFailed.bind {c : Check σ α} {k₁ k₂ : α → Check σ Evaluation}
    (hk : ∀ a, SameUnlessFailed (k₁ a) (k₂ a)) : SameUnlessFailed (c >>= k₁) (c >>= k₂) := by
  intro s
  rw [Check.runFrom_bind, Check.runFrom_bind]
  rcases c.runFrom s with ⟨x, s'⟩
  cases x with
  | error f => exact .inr rfl
  | ok a => exact hk a s'

/-- A level asks for an explanation only if it fails. -/
lemma level_sameUnlessFailed (x₁ x₂ : Explainer σ) (nested : Request → Check σ Evaluation) (r : Request) :
    SameUnlessFailed (E.level x₁ nested r) (E.level x₂ nested r) := by
  rw [level_eq, level_eq]
  refine .bind fun _ => .bind fun _ => ?_
  rw [admitted, admitted]
  split
  · exact fun _ => .inr rfl
  · refine .bind fun policy => ?_
    cases policy with
    | none => exact fun _ => .inr rfl
    | some p =>
      refine .bind fun found => ?_
      cases found with
      | none => exact fun _ => .inr rfl
      | some d =>
        -- only here an explainer is asked
        by_cases hfail : d.qualifier = .fail
        · intro s
          left
          simp only [hfail]
          exact ⟨_, rfl⟩
        · simp only [if_neg hfail]
          exact fun _ => .inr rfl

/-- Nothing is noted but levels so deep. -/
def notedBelow (σ : Type) (k : Nat) : Correspondence (σ × List FailedLevel) (σ × List FailedLevel) where
  together s₁ s₂ := s₁ = s₂ ∧ ∀ f ∈ s₁.resolver.2, k ≤ f.2.depth
  parted _ _ _ := False

/-- What happens to a session, except for queries, notes nothing. -/
lemma notedBelow_inseparable (E : Engine σ) (k : Nat) :
    (notedBelow σ k).Inseparable E.noted.resolver E.noted.resolver where
  budget_eq h := congrArg Session.budget h.1
  not_parted h := h
  together_after := by
    rintro s _ ⟨rfl, hdeep⟩ e -
    exact ⟨rfl, by rwa [noted, Session.notes_after]⟩

/-- What an engine asks notes nothing, so the engine agrees with itself. -/
lemma notedBelow_agree (E : Engine σ) (k : Nat) : AgreeUpToOrder (notedBelow σ k) E.noted E.noted := by
  refine agreeUpToOrder_of_inseparable (notedBelow_inseparable E k) (fun q => ⟨?_, ?_, False.elim⟩) rfl rfl
  · rintro s _ ⟨rfl, -⟩
    exact .refl (.refl q) _
  · rintro s _ ⟨rfl, hdeep⟩
    exact ⟨rfl, hdeep⟩

/-- Levels nested below a request note only levels below it. -/
lemma notedBelow_nest (E : Engine σ) (n : Nat) (r : Request) :
    Check.Matches (notedBelow σ r.depth) (Alike Eq) (E.noted.nest noting n r) (E.noted.nest noting n r) := by
  refine (notedBelow_agree E _).nest (notedBelow_inseparable E _) (fun _ => rfl) n fun p r' hr' => ⟨?_, ?_, False.elim⟩
  · rintro s _ ⟨rfl, -⟩
    rfl
  · rintro s _ ⟨rfl, hdeep⟩
    exact ⟨rfl, List.forall_mem_cons.mpr ⟨hr', hdeep⟩⟩

/-- A level notes levels nested in it, unless it fails. -/
lemma level_notes {nested : Request → Check (σ × List FailedLevel) Evaluation} {r : Request} (state : σ)
    (hnested : ∀ domain, Check.Matches (notedBelow σ (r.depth + 1)) (Alike Eq) (nested (r.descend domain))
      (nested (r.descend domain))) :
    let ending := (E.noted.level noting nested r).runFrom (E.noted.fresh (state, []))
    (∃ x, ending.1 = .ok ⟨.fail, x⟩) ∨ ∀ f ∈ ending.2.resolver.2, r.depth < f.2.depth := by
  intro ending
  refine (level_sameUnlessFailed noting silent nested r _).imp_right fun hsame => ?_
  have hsilent : ∀ p, Probe.Matches (notedBelow σ (r.depth + 1)) Eq (silent p r) (silent p r) := fun p => .pure rfl
  have hstart : (notedBelow σ (r.depth + 1)).together (E.noted.fresh (state, [])) (E.noted.fresh (state, [])) :=
    ⟨rfl, nofun⟩
  have hends := ((notedBelow_agree E _).level (fun _ => rfl) hnested hsilent).together hstart
  rw [show ending = _ from hsame]
  exact (hends.verdict_eq (notedBelow_inseparable E _).not_parted).2.2

/-- All levels that fail are nested in the first one, unless that fails. -/
lemma depth_lt_of_mem_failures (E : Engine σ) (r : Request) (state : σ) :
    (∃ x, (E.notedRun r state).1 = .ok ⟨.fail, x⟩) ∨ ∀ f ∈ E.failures r state, r.depth < f.2.depth := by
  have hrun : E.notedRun r state =
      (E.noted.nest noting (E.noted.fresh (state, [])).budget.remaining r).runFrom (E.noted.fresh (state, [])) := rfl
  rw [failures, hrun]
  rcases (E.noted.fresh (state, [])).budget.remaining with _ | n
  · exact level_notes state fun _ => (notedBelow_inseparable E _).matches_exhausted
  · exact level_notes state fun domain => notedBelow_nest E n (r.descend domain)

/-- The queries of an evaluation are those of the silent one, in their order, with others in between: those for the
explanations of levels that failed. There are no others if and only if none of these explanations needs a query. And if
the evaluation does not end in a failure, all levels that failed are nested ones. -/
theorem evaluate_queries_eq_iff (E : Engine σ) (hE : E.resolver.IsSteady) (r : Request) (state : σ) :
    let explained := (E.evaluate r).runFrom (E.fresh state)
    let unexplained := (E.evaluateWith silent r).runFrom (E.fresh state)
    unexplained.2.queries.Sublist explained.2.queries ∧
      (explained.2.queries = unexplained.2.queries ↔ ∀ f ∈ E.failures r state, E.explanationQueries state f = []) ∧
      ((∀ x, explained.1 ≠ .ok ⟨.fail, x⟩) → ∀ f ∈ E.failures r state, r.depth < f.2.depth) := by
  intro explained unexplained
  have hC := explaining.inseparable E state
  -- the other run is a silent one that notes the levels that fail
  have hagree : AgreeUpToOrder (explaining E state) E E.noted :=
    agreeUpToOrder_of_inseparable hC (explaining.matches_ask hE) rfl rfl
  have hstart : (explaining E state).together (E.fresh state) (E.noted.fresh (state, [])) :=
    ⟨rfl, List.Sublist.refl _, fun _ => nofun, fun _ => rfl⟩
  have hends : Matched (explaining E state) (Alike fun _ _ => True) explained (E.notedRun r state) :=
    hagree.evaluateWith hC (fun _ => trivial) hstart fun p r' _ => explaining.matches_explain hE p r'
  obtain ⟨hverdict, -, hsublist, heq⟩ := hends.verdict_eq hC.not_parted
  rw [notedRun_silent] at hsublist heq
  refine ⟨hsublist, heq, fun hne => (depth_lt_of_mem_failures E r state).resolve_left ?_⟩
  rintro ⟨x, hx⟩
  rw [hx] at hverdict
  cases hresult : explained.1 with
  | error f =>
    rw [hresult] at hverdict
    cases hverdict
  | ok e =>
    rw [hresult] at hverdict
    exact hne e.explanation (by rw [hresult, ← (Except.ok.inj hverdict : e.verdict = .fail)])

/-- An engine for which one domain includes another, and makes a soft failure of whatever that fails. The included
domain fails everyone, and names where it explains itself. -/
def softening (explanation : Text) : Engine Unit where
  resolver := .fixed fun
    | .txt name =>
      if name = "a.example".toList then .ok ["v=spf1 include:b.example ~all".toList]
      else if name = "b.example".toList then .ok ["v=spf1 -all exp=".toList ++ explanation]
      else .ok ["go away".toList]
    | _ => .error .noSuchDomain
  options := {}
  now := 0

/-- The explanation of an included domain that is at no valid domain needs no query, so it adds none. -/
theorem evaluate_queries_eq_iff_nowhere :
    let E := softening "%{l}".toList
    let r : Request := ⟨"u@a.example".toList, "a.example".toList, .v4 ⟨1⟩, "a.example".toList, 0⟩
    E.resolver.IsSteady ∧ ((E.evaluate r).runFrom (E.fresh ())).1 = .ok ⟨.softFail, none⟩ ∧
      (E.failures r ()).map (·.2.domain) = ["b.example".toList] ∧ (∀ f ∈ E.failures r (), 0 < f.2.depth) ∧
      ((E.evaluate r).runFrom (E.fresh ())).2.queries = ((E.evaluateWith silent r).runFrom (E.fresh ())).2.queries := by
  intro E r
  have hE : E.resolver.IsSteady := fun _ _ _ => rfl
  have hend : ((E.evaluate r).runFrom (E.fresh ())).1 = .ok ⟨.softFail, none⟩ := by decide +kernel
  obtain ⟨-, heq, hdepth⟩ := evaluate_queries_eq_iff E hE r ()
  exact ⟨hE, hend, by decide +kernel, hdepth (by rw [hend]; nofun), heq.mpr (by decide +kernel)⟩

/-- An evaluation that ends in a soft failure may send a query for the explanation of an included domain, which the
silent one does not send. -/
theorem evaluate_queries_unseen :
    let E := softening "why.b.example".toList
    let r : Request := ⟨"u@a.example".toList, "a.example".toList, .v4 ⟨1⟩, "a.example".toList, 0⟩
    let explained := (E.evaluate r).runFrom (E.fresh ())
    let unexplained := (E.evaluateWith silent r).runFrom (E.fresh ())
    explained.1 = .ok ⟨.softFail, none⟩ ∧
      explained.2.queries = unexplained.2.queries ++ [.txt "why.b.example".toList] ∧
      explained.2.queries ≠ unexplained.2.queries := by
  intro E r explained unexplained
  have hqueries : explained.2.queries = unexplained.2.queries ++ [.txt "why.b.example".toList] := by decide +kernel
  refine ⟨by decide +kernel, hqueries, ?_⟩
  rw [hqueries]
  simp

end Engine

end SenderPolicy
