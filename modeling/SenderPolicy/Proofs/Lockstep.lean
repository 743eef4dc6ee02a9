import SenderPolicy.Checking
import SenderPolicy.Proofs.Agreement

/-!
# Evaluations in step

Two resolvers may keep different states and yet answer alike. Then two engines over them, with the same options at the
same time, go in step: whatever one does the other does, and both end alike, an evaluation (`evaluate_lockstep`) as well
as an inquiry about a sender (`answer_lockstep`).
-/

namespace SenderPolicy

variable {σ τ : Type}

/-- In related states the resolvers give the same answers, and go on to related states. -/
structure Resolver.InStep (J : σ → τ → Prop) (R₁ : Resolver σ) (R₂ : Resolver τ) : Prop where
  answer_eq : ∀ q {a b}, J a b → (R₁.ask q a).1 = (R₂.ask q b).1
  next : ∀ q {a b}, J a b → J (R₁.ask q a).2 (R₂.ask q b).2

/-- Sessions in which the same happened so far, with resolvers in related states. They never part. -/
def lockstep (J : σ → τ → Prop) : Correspondence σ τ where
  together s₁ s₂ := J s₁.resolver s₂.resolver ∧ s₁.budget = s₂.budget ∧ s₁.journal = s₂.journal
  parted _ _ _ := False

namespace lockstep

variable {J : σ → τ → Prop} {R₁ : Resolver σ} {R₂ : Resolver τ}

/-- The same event keeps sessions together if no query is sent. -/
lemma inseparable (R₁ : Resolver σ) (R₂ : Resolver τ) : (lockstep J).Inseparable R₁ R₂ where
  budget_eq h := h.2.1
  not_parted h := h
  together_after := by
    rintro s₁ s₂ ⟨hresolver, hbudget, hjournal⟩ e he
    cases e with
    | asked q => cases he
    | entered domain depth => exact ⟨hresolver, hbudget, congrArg (_ :: ·) hjournal⟩
    | charged =>
      refine ⟨hresolver, ?_, congrArg (_ :: ·) hjournal⟩
      exact congrArg (fun b : Budget => { b with lookups := b.lookups + 1 }) hbudget
    | void => exact ⟨hresolver, congrArg Budget.recordVoid hbudget, congrArg (_ :: ·) hjournal⟩

/-- Resolvers in step give the same answer to a query, and stay in step. -/
lemma matches_ask (hR : R₁.InStep J R₂) (q : Query) :
    Probe.Matches (lockstep J) Eq (Probe.ask R₁ q) (Probe.ask R₂ q) :=
  ⟨fun h => hR.answer_eq q h.1, fun h => ⟨hR.next q h.1, h.2.1, congrArg (_ :: ·) h.2.2⟩, False.elim⟩

/-- Sessions in step are the same if their resolvers are in the same state. -/
lemma eq_of_together {s₁ s₂ : Session σ} (h : (lockstep Eq).together s₁ s₂) : s₁ = s₂ := by
  obtain ⟨hresolver, hbudget, hjournal⟩ := h
  cases s₁
  cases s₂
  cases hresolver
  cases hbudget
  cases hjournal
  rfl

/-- Probes that are in step wherever the resolver is in the same state are the same. -/
lemma eq_of_matches {α : Type} {p₁ p₂ : Probe σ α} (h : Probe.Matches (lockstep Eq) Eq p₁ p₂) : p₁ = p₂ := by
  funext s
  have hstart : (lockstep Eq).together s s := ⟨rfl, rfl, rfl⟩
  exact Prod.ext (h.value hstart) (eq_of_together (h.together hstart))

/-- A probe is in step with itself where the resolver is in the same state. -/
lemma matches_self {α : Type} (p : Probe σ α) : Probe.Matches (lockstep Eq) Eq p p := by
  refine ⟨fun h => ?_, fun h => ?_, False.elim⟩
  · rw [eq_of_together h]
  · rw [eq_of_together h]
    exact ⟨rfl, rfl, rfl⟩

end lockstep

namespace Engine

variable {J : σ → τ → Prop} {R₁ : Resolver σ} {R₂ : Resolver τ} {E₁ : Engine σ} {E₂ : Engine τ}

/-- Engines over resolvers that are in step, with the same options at the same time. -/
structure InStep (J : σ → τ → Prop) (E₁ : Engine σ) (E₂ : Engine τ) : Prop where
  resolvers : E₁.resolver.InStep J E₂.resolver
  options : E₁.options = E₂.options
  now : E₁.now = E₂.now

namespace InStep

variable (h : InStep J E₁ E₂)

include h

/-- Evaluations that start together end together, and alike. -/
theorem evaluate_lockstep {s₁ : Session σ} {s₂ : Session τ} (hs : (lockstep J).together s₁ s₂) (r : Request) :
    ((E₁.evaluate r).runFrom s₁).1 = ((E₂.evaluate r).runFrom s₂).1 ∧
      (lockstep J).together ((E₁.evaluate r).runFrom s₁).2 ((E₂.evaluate r).runFrom s₂).2 := by
  have hC : (lockstep J).Inseparable E₁.resolver E₂.resolver := lockstep.inseparable E₁.resolver E₂.resolver
  have hask := fun q => (lockstep.matches_ask h.resolvers q).mono Akin.of_eq
  exact (evaluate_of_inseparable hC hask h.options h.now hs r).result_eq hC.not_parted

/-- Checks of a sender have the same outcome. -/
lemma check_lockstep {a : σ} {b : τ} (hab : J a b) (sender : Text) (client : Address) (helo : Option Text) :
    (E₁.check sender client helo a).1 = (E₂.check sender client helo b).1 ∧
      J (E₁.check sender client helo a).2.resolver (E₂.check sender client helo b).2.resolver := by
  have hfresh : (lockstep J).together (E₁.fresh a) (E₂.fresh b) :=
    ⟨hab, by rw [fresh, fresh, h.options]; rfl, rfl⟩
  rw [check, check]
  split
  · exact ⟨rfl, hab⟩
  · next domain _ =>
    have hrequest : ∀ localPart domain, E₁.request localPart domain client.canonical helo =
        E₂.request localPart domain client.canonical helo := by
      intro localPart domain
      rw [request, request, heloIdentity, heloIdentity, h.options]
    rw [hrequest]
    obtain ⟨hend, hresolver, hbudget, -⟩ := h.evaluate_lockstep hfresh
      (E₂.request (Mailbox.ofSender sender).localPart domain client.canonical helo)
    refine ⟨?_, hresolver⟩
    show conclude _ _ _ = conclude _ _ _
    simp only [hend, conclude, hbudget]

end InStep

end Engine

/-! ## Inquiries -/

/-- What can be asked about a sender: whether an address may send for it. The address is given as a text, or with a HELO
identity perhaps. -/
inductive Inquiry where
  | text (sender address : Text)
  | address (sender : Text) (client : Address) (helo : Option Text)

/-- The outcome of an inquiry. -/
def Engine.answer (E : Engine σ) (state : σ) : Inquiry → Outcome × Session σ
  | .text sender address => E.checkText sender address state
  | .address sender client helo => E.check sender client helo state

/-- Inquiries to engines in step have the same outcomes. -/
theorem Engine.InStep.answer_lockstep {J : σ → τ → Prop} {E₁ : Engine σ} {E₂ : Engine τ} (h : InStep J E₁ E₂) {a : σ}
    {b : τ} (hab : J a b) (i : Inquiry) :
    (E₁.answer a i).1 = (E₂.answer b i).1 ∧ J (E₁.answer a i).2.resolver (E₂.answer b i).2.resolver := by
  cases i with
  | text sender address =>
    rw [answer, answer, checkText, checkText]
    split
    · exact h.check_lockstep hab sender _ none
    · exact ⟨rfl, hab⟩
  | address sender client helo => exact h.check_lockstep hab sender client helo

end SenderPolicy
