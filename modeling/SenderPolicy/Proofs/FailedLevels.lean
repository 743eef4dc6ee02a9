import SenderPolicy.Proofs.ExplanationQueries
import SenderPolicy.Proofs.Sequences

/-!
# What explainers are asked for

An evaluation asks its explainer for a policy and a request only where that policy failed that request. So two
explainers that agree on the levels that fail in the course of an evaluation lead to the same evaluation
(`evaluateWith_congr`).

Which levels fail is known at the end only, when they are noted. What has to hold until then is said backwards: if
nothing but agreed levels is noted in the end, then so it was in every session before, and the two evaluations did the
same.
-/

namespace SenderPolicy

variable {σ α β : Type}

/-! ## Checks that are told from their end -/

/-- Where the first check ends in a session as it should be, it started in such a session, and the second check does the
same. -/
structure Check.SameWithin (G : Session σ → Prop) (c₁ c₂ : Check σ α) : Prop where
  before : ∀ {s}, G (c₁.runFrom s).2 → G s
  same : ∀ {s}, G (c₁.runFrom s).2 → c₁.runFrom s = c₂.runFrom s

namespace Check.SameWithin

variable {G : Session σ → Prop} {c₁ c₂ : Check σ α} {k₁ k₂ : α → Check σ β}

/-- A check does the same as itself, if it never comes to such a session from another. -/
lemma refl {c : Check σ α} (h : ∀ {s}, G (c.runFrom s).2 → G s) : SameWithin G c c :=
  ⟨h, fun _ => rfl⟩

/-- To end at once leaves the session as it is. -/
lemma pure (a : α) : SameWithin G (Pure.pure a : Check σ α) (Pure.pure a) :=
  .refl id

/-- To fail at once leaves the session as it is. -/
lemma throw (f : Failure) : SameWithin G (MonadExcept.throw f : Check σ α) (MonadExcept.throw f) :=
  .refl id

/-- What the first check has to itself is that it comes to such sessions from such only. -/
lemma left (h : SameWithin G c₁ c₂) : SameWithin G c₁ c₁ :=
  .refl h.before

/-- Checks in a row do the same from the end backwards: first the second parts, then the first ones. -/
lemma bind (hc : SameWithin G c₁ c₂) (hk : ∀ a, SameWithin G (k₁ a) (k₂ a)) :
    SameWithin G (c₁ >>= k₁) (c₂ >>= k₂) := by
  -- the first part ends as it should, because the second one started there
  have hfirst : ∀ {s}, G ((c₁ >>= k₁).runFrom s).2 → G (c₁.runFrom s).2 := by
    intro s h
    rcases hrun : c₁.runFrom s with ⟨x, s'⟩
    cases x with
    | error f => rwa [runFrom_bind_error hrun] at h
    | ok a =>
      rw [runFrom_bind_ok hrun] at h
      exact (hk a).before h
  refine ⟨fun h => hc.before (hfirst h), fun {s} h => ?_⟩
  have hsame := hc.same (hfirst h)
  rcases hrun : c₁.runFrom s with ⟨x, s'⟩
  rw [hrun] at hsame
  cases x with
  | error f => rw [runFrom_bind_error hrun, runFrom_bind_error hsame.symm]
  | ok a =>
    rw [runFrom_bind_ok hrun] at h ⊢
    rw [runFrom_bind_ok hsame.symm]
    exact (hk a).same h

end Check.SameWithin

/-! ## Notes that are made of agreed levels -/

open Check (SameWithin)

namespace Engine

variable {E : Engine σ}

/-- All levels that are noted are among the given ones. -/
def NotesWithin (good : FailedLevel → Prop) (s : Session (σ × List FailedLevel)) : Prop :=
  ∀ f ∈ s.resolver.2, good f

variable {good : FailedLevel → Prop}

/-- The small steps take no notes. -/
lemma compositional_sameWithin (E : Engine σ) (good : FailedLevel → Prop) :
    E.noted.Compositional fun _ c => SameWithin (NotesWithin good) c c where
  pure := .pure
  throw := .throw
  probe {_ _ p} hp := by
    refine .refl fun {s} h => ?_
    obtain ⟨qs, -, hs⟩ := hp s
    -- a probe leaves a journal of queries, and no query is a note
    have hnotes : ∀ qs : List Query, (s.replay E.noted.resolver (qs.map .asked)).resolver.2 = s.resolver.2 := by
      intro qs
      induction qs with
      | nil => rfl
      | cons q qs ih => exact (Session.notes_after E.resolver _ (.asked q)).trans ih
    have hend : (p.runFrom s).2.resolver.2 = s.resolver.2 := by rw [hs, hnotes]
    exact fun f hf => h f (hend.symm ▸ hf)
  charge := by
    refine .refl fun {s} h => ?_
    rw [Session.runFrom_charge E.noted.resolver] at h
    split at h
    · exact h
    · exact h
  recordVoid := by
    refine .refl fun {s} h => ?_
    rw [Session.runFrom_recordVoid E.noted.resolver] at h
    split at h
    · exact h
    · exact h
  bind hc hk := hc.bind hk

section

variable {x₁ x₂ : Explainer (σ × List FailedLevel)}
  {n₁ n₂ : Request → Check (σ × List FailedLevel) Evaluation}
  (hn : ∀ r, SameWithin (NotesWithin good) (n₁ r) (n₂ r))

include hn

/-- To include a level does the same if the nested evaluations do. -/
lemma passedBy_sameWithin (r : Request) (domain : Text) :
    SameWithin (NotesWithin good) (passedBy n₁ r domain) (passedBy n₂ r domain) := by
  refine (hn (r.descend domain)).bind fun e => ?_
  split
  · exact .pure true
  · exact .throw _
  · exact .pure false

/-- Of the mechanisms, only one that includes a level evaluates what is nested. -/
lemma matchesClient_sameWithin (r : Request) (m : Mechanism) :
    SameWithin (NotesWithin good) (E.noted.matchesClient n₁ r m) (E.noted.matchesClient n₂ r m) := by
  have h := compositional_sameWithin E good
  have hpassed := passedBy_sameWithin hn r
  have hself := h.matchesClient fun domain => (hpassed domain).left
  cases m with
  | includes target => exact h.charge.bind fun _ => (h.targetDomain r target).bind hpassed
  | all => exact hself .all
  | a target lengths => exact hself (.a target lengths)
  | mx target lengths => exact hself (.mx target lengths)
  | ptr target => exact hself (.ptr target)
  | ip4 network length => exact hself (.ip4 network length)
  | ip6 network length => exact hself (.ip6 network length)
  | existing target => exact hself (.existing target)

/-- Directives that are tried in a row do the same if the nested evaluations do. -/
lemma firstMatch_sameWithin (r : Request) (ds : List Directive) :
    SameWithin (NotesWithin good) (E.noted.firstMatch n₁ r ds) (E.noted.firstMatch n₂ r ds) := by
  induction ds with
  | nil => exact .pure none
  | cons d ds ih =>
    refine (matchesClient_sameWithin hn r d.mechanism).bind fun found => ?_
    cases found with
    | true => exact .pure (some d)
    | false => exact ih

/-- What a redirection hands over to does the same in both. -/
lemma redirected_sameWithin (r : Request) (target : Text) :
    SameWithin (NotesWithin good) (E.noted.redirected n₁ r target) (E.noted.redirected n₂ r target) := by
  have h := compositional_sameWithin E good
  refine h.charge.bind fun _ => (h.targetDomain r target).bind fun domain => (hn (r.descend domain)).bind fun e => ?_
  split
  · exact h.throw_bind _ _
  · exact .pure e

variable (hx : ∀ p r, SameWithin (NotesWithin good) (liftM (x₁ p r) : Check (σ × List FailedLevel) (Option Text))
  (liftM (x₂ p r)))

include hx

/-- A decision does the same if the nested evaluations do and its explanation does. -/
lemma decide_sameWithin (r : Request) (p : Policy) :
    SameWithin (NotesWithin good) (E.noted.decide x₁ n₁ r p) (E.noted.decide x₂ n₂ r p) := by
  refine (firstMatch_sameWithin hn r p.directives).bind fun found => ?_
  split
  · split
    · exact (hx p r).bind fun _ => .pure _
    · exact (SameWithin.pure none).bind fun _ => .pure _
  · split
    · exact redirected_sameWithin hn r _
    · exact .pure _

/-- A level does the same if the levels nested in it and its explanation do. -/
lemma level_sameWithin (r : Request) :
    SameWithin (NotesWithin good) (E.noted.level x₁ n₁ r) (E.noted.level x₂ n₂ r) := by
  have h := compositional_sameWithin E good
  have henter : SameWithin (NotesWithin good) (Check.enter r.domain r.depth : Check (σ × List FailedLevel) Unit)
      (Check.enter r.domain r.depth) := .refl id
  rw [level_eq, level_eq]
  refine henter.bind fun _ => (h.admitDepth r.depth).bind fun _ => ?_
  rw [admitted, admitted]
  split
  · exact .pure _
  · refine (h.policyAt r.domain).bind fun policy => ?_
    cases policy with
    | none => exact .pure _
    | some p => exact decide_sameWithin hn hx r p

omit hn in
/-- Two explainers do the same at all levels, however deep they may nest, if only good levels are noted. -/
lemma nest_sameWithin (n : Nat) (r : Request) :
    SameWithin (NotesWithin good) (E.noted.nest x₁ n r) (E.noted.nest x₂ n r) := by
  induction n generalizing r with
  | zero => exact level_sameWithin (fun _ => .refl id) hx r
  | succ n ih => exact level_sameWithin ih hx r

end

/-! ## Evaluations -/

/-- The levels that fail in the course of an evaluation from a session, the last one first. -/
def failedLevels (E : Engine σ) (explainer : Explainer σ) (r : Request) (s : Session σ) : List FailedLevel :=
  ((E.noted.evaluateWith explainer.noted r).runFrom (s.withNotes [])).2.resolver.2

/-- Where explainers agree on what is noted, they do the same and note the same. -/
lemma noted_sameWithin (x₁ x₂ : Explainer σ) (p : Policy) (r : Request) :
    SameWithin (NotesWithin fun f => x₁ f.1 f.2 = x₂ f.1 f.2)
      (liftM (x₁.noted p r) : Check (σ × List FailedLevel) (Option Text)) (liftM (x₂.noted p r)) := by
  refine ⟨fun h f hf => h f (List.mem_cons_of_mem _ hf), fun {s} h => ?_⟩
  have hnew : x₁ p r = x₂ p r := h (p, r) List.mem_cons_self
  have hnoted : x₁.noted p r = x₂.noted p r := by
    unfold Explainer.noted
    rw [hnew]
  rw [hnoted]

/-- Explainers that agree on the levels that fail in the course of an evaluation lead to the same end. -/
theorem evaluateWith_congr (E : Engine σ) {x₁ x₂ : Explainer σ} (r : Request) (s : Session σ)
    (h : ∀ f ∈ E.failedLevels x₁ r s, x₁ f.1 f.2 = x₂ f.1 f.2) :
    (E.evaluateWith x₁ r).runFrom s = (E.evaluateWith x₂ r).runFrom s := by
  have hnest := nest_sameWithin (E := E) (noted_sameWithin x₁ x₂) s.budget.remaining r
  have hnoted : (E.noted.evaluateWith x₁.noted r).runFrom (s.withNotes []) =
      (E.noted.evaluateWith x₂.noted r).runFrom (s.withNotes []) := hnest.same h
  rw [E.evaluateWith_noted x₁ r s [], E.evaluateWith_noted x₂ r s [], hnoted]

end Engine

end SenderPolicy
