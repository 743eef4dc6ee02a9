import SenderPolicy.Checking
import SenderPolicy.Proofs.Agreement
import SenderPolicy.Proofs.Spending

/-!
# Raising the limits

What becomes of an evaluation when the limits of lookups, empty answers, depth and mail exchanges are raised. The
two evaluations go together until the first one fails for such a limit, which nothing on its way turns into anything
else; the second one then goes on from there. So an outcome that is no limit stays (`evaluate_relaxed`), and the
queries of the first evaluation are in any case the beginning of those of the second.
-/

namespace SenderPolicy

variable {σ α : Type}

/-- The check only adds to the journal. -/
def Check.Extends (c : Check σ α) : Prop :=
  ∀ s, s.journal <:+ (c.runFrom s).2.journal

/-- A check that gets by on an allowance only adds to the journal. -/
lemma Engine.Affords.extends {E : Engine σ} {depth q v : Nat} {c : Check σ α}
    (hc : E.Affords depth q v c) : c.Extends := by
  intro s
  obtain ⟨t, ht⟩ := hc s
  rw [ht.replays, Session.journal_replay]
  exact List.suffix_append t s.journal

/-- The failures for a limit that `Options.RelaxedTo` may raise. -/
def Failure.isLimit : Failure → Bool
  | lookupLimit _ | voidLimit _ | depthLimit _ | tooManyExchanges _ _ _ => true
  | _ => false

/-- The second options differ from the first in four limits only, none of which is lower. -/
structure Options.RelaxedTo (o o' : Options) : Prop where
  maxLookups_le : o.maxLookups ≤ o'.maxLookups
  maxVoids_le : o.maxVoids ≤ o'.maxVoids
  maxDepth_le : o.maxDepth ≤ o'.maxDepth
  maxExchanges_le : o.maxExchanges ≤ o'.maxExchanges
  rest_eq : o' = { o with
    maxLookups := o'.maxLookups
    maxVoids := o'.maxVoids
    maxDepth := o'.maxDepth
    maxExchanges := o'.maxExchanges }

/-- Nothing but the limits tells sessions apart that go together. They part when the first evaluation fails for a
limit; the journal of the second then goes on from that of the first. -/
def leniency (σ : Type) : Correspondence σ σ where
  together s₁ s₂ := s₁.resolver = s₂.resolver ∧ s₁.journal = s₂.journal ∧
    s₁.budget.lookups = s₂.budget.lookups ∧ s₁.budget.voids = s₂.budget.voids ∧
    s₁.budget.maxLookups ≤ s₂.budget.maxLookups ∧ s₁.budget.maxVoids ≤ s₂.budget.maxVoids
  parted f s₁ s₂ := f.isLimit = true ∧ s₁.journal <:+ s₂.journal

namespace leniency

variable {V : α → α → Prop} {R : Resolver σ} {s₁ s₂ : Session σ} {f : Failure}

/-- The same event keeps sessions together. -/
lemma together_after (h : (leniency σ).together s₁ s₂) (e : Event) :
    (leniency σ).together (s₁.after R e) (s₂.after R e) := by
  obtain ⟨hresolver, hjournal, hlookups, hvoids, hmaxLookups, hmaxVoids⟩ := h
  cases e with
  | entered domain depth =>
    exact ⟨hresolver, congrArg (_ :: ·) hjournal, hlookups, hvoids, hmaxLookups, hmaxVoids⟩
  | asked q =>
    exact ⟨congrArg (fun s => (R.ask q s).2) hresolver, congrArg (_ :: ·) hjournal, hlookups, hvoids,
      hmaxLookups, hmaxVoids⟩
  | charged =>
    exact ⟨hresolver, congrArg (_ :: ·) hjournal, congrArg (· + 1) hlookups, hvoids, hmaxLookups, hmaxVoids⟩
  | void =>
    exact ⟨hresolver, congrArg (_ :: ·) hjournal, hlookups, congrArg (· + 1) hvoids, hmaxLookups, hmaxVoids⟩

/-- The second evaluation may go on with any event. -/
lemma parted_after (h : (leniency σ).parted f s₁ s₂) (e : Event) :
    (leniency σ).parted f s₁ (s₂.after R e) := by
  refine ⟨h.1, h.2.trans ?_⟩
  cases e <;> exact List.suffix_cons _ _

/-- A failure for the limit of lookups, in whatever session, matches every check. -/
lemma matches_exhausted {c : Check σ Evaluation} {V : Evaluation → Evaluation → Prop} (hc : c.Extends) :
    Check.Matches (leniency σ) V (do throw (.lookupLimit (← get).budget.maxLookups)) c := by
  refine ⟨fun {s₁ s₂} h => ?_, fun {f s₁ s₂} h => ⟨h.1, h.2.trans (hc s₂)⟩⟩
  have hparted : (leniency σ).parted (.lookupLimit s₁.budget.maxLookups) s₁ (c.runFrom s₂).2 :=
    ⟨rfl, h.2.1 ▸ hc s₂⟩
  exact .parted hparted

/-- A query is answered alike in both evaluations, and is one more in the second if they have parted. -/
lemma matches_ask (q : Query) : Probe.Matches (leniency σ) Eq (Probe.ask R q) (Probe.ask R q) :=
  ⟨fun h => congrArg (fun s => (R.ask q s).1) h.1, fun h => together_after h (.asked q),
    fun h => parted_after (R := R) h (.asked q)⟩

/-- Levels are entered alike in both evaluations. -/
lemma matches_enter (R : Resolver σ) (domain : Text) (depth : Nat) :
    Check.Matches (leniency σ) Eq (Check.enter domain depth) (Check.enter domain depth) :=
  ⟨fun h => .ok rfl (together_after (R := R) h (.entered domain depth)),
    fun h => parted_after (R := R) h (.entered domain depth)⟩

/-- A lookup that is refused parts the evaluations, unless it is refused in both. -/
lemma matches_charge (R : Resolver σ) : Check.Matches (leniency σ) Eq Check.charge Check.charge := by
  have hparted : ∀ {f : Failure} {s₁ s₂ : Session σ}, (leniency σ).parted f s₁ s₂ →
      (leniency σ).parted f s₁ (Check.charge.runFrom s₂).2 := by
    intro f s₁ s₂ h
    rw [Session.runFrom_charge R]
    split
    · exact parted_after (R := R) h .charged
    · exact h
  refine ⟨fun {s₁ s₂} h => ?_, hparted⟩
  rw [Session.runFrom_charge R s₁]
  have htogether := together_after (R := R) h .charged
  obtain ⟨-, hjournal, hlookups, -, hmax, -⟩ := h
  by_cases hleft : s₁.budget.lookups < s₁.budget.maxLookups
  · rw [if_pos hleft, Session.runFrom_charge R s₂, if_pos (by omega)]
    exact .ok rfl htogether
  · rw [if_neg hleft]
    exact .parted (hparted ⟨rfl, hjournal ▸ List.suffix_rfl⟩)

/-- An empty answer is counted in both evaluations, and refused at most in the first alone or in both. -/
lemma matches_recordVoid (R : Resolver σ) :
    Check.Matches (leniency σ) Eq Check.recordVoid Check.recordVoid := by
  have hafter : ∀ s : Session σ, (Check.recordVoid.runFrom s).2 = s.after R .void := by
    intro s
    rw [Session.runFrom_recordVoid R]
    split
    · rfl
    · rfl
  refine ⟨fun {s₁ s₂} h => ?_, fun {f s₁ s₂} h => hafter s₂ ▸ parted_after h .void⟩
  rw [Session.runFrom_recordVoid R s₁]
  have htogether := together_after (R := R) h .void
  obtain ⟨-, -, -, hvoids, -, hmax⟩ := h
  by_cases hleft : s₁.budget.voids < s₁.budget.maxVoids
  · rw [if_pos hleft, Session.runFrom_recordVoid R s₂, if_pos (by omega)]
    exact .ok rfl htogether
  · rw [if_neg hleft]
    -- the first run ends here for a limit, with the answer counted; the second may go on
    have hparted : (leniency σ).parted (.voidLimit s₁.budget.maxVoids) (s₁.after R .void)
        (Check.recordVoid.runFrom s₂).2 := by
      rw [hafter s₂]
      exact ⟨rfl, htogether.2.1 ▸ List.suffix_rfl⟩
    exact .parted hparted

/-- A guard that is laxer in the second evaluation may fail for a limit in the first. -/
lemma matches_guard {p p' : Prop} [Decidable p] [Decidable p'] {f f' : Failure} (hf : f.isLimit = true)
    (hf' : p' → p) :
    Check.Matches (leniency σ) Eq (if p then throw f else pure () : Check σ Unit)
      (if p' then throw f' else pure ()) := by
  have hparted : ∀ {g : Failure} {s₁ s₂ : Session σ}, (leniency σ).parted g s₁ s₂ →
      (leniency σ).parted g s₁ ((if p' then throw f' else pure () : Check σ Unit).runFrom s₂).2 := by
    intro g s₁ s₂ h
    split
    · exact h
    · exact h
  refine ⟨fun {s₁ s₂} h => ?_, hparted⟩
  by_cases hp : p
  · rw [if_pos hp]
    exact .parted (hparted ⟨hf, h.2.1 ▸ List.suffix_rfl⟩)
  · rw [if_neg hp, if_neg fun hp' => hp (hf' hp')]
    exact .ok rfl h

end leniency

namespace Engine

variable (E : Engine σ) {o : Options}

/-- The engine with other options. -/
def withOptions (o : Options) : Engine σ :=
  { E with options := o }

variable {E}

/-- An engine agrees with itself under larger limits until one of the limits is met. -/
lemma agree_relaxed (ho : E.options.RelaxedTo o) : Agree (leniency σ) E (E.withOptions o) where
  ask := leniency.matches_ask
  enter := leniency.matches_enter E.resolver
  charge := leniency.matches_charge E.resolver
  recordVoid := leniency.matches_recordVoid E.resolver
  admitDepth _ := leniency.matches_guard rfl ho.maxDepth_le.trans_lt
  admitExchanges _ _ := leniency.matches_guard rfl ho.maxExchanges_le.trans_lt
  maxPtrNames := by
    show E.options.maxPtrNames = o.maxPtrNames
    rw [ho.rest_eq]
  transaction := by
    funext r name
    simp only [transaction, withOptions, Options.receiverName]
    rw [ho.rest_eq]

/-- The first evaluation may nest less deep, where it fails for a limit. -/
lemma nest_relaxed (ho : E.options.RelaxedTo o) {n m : Nat} (hnm : n ≤ m) (r : Request) :
    Check.Matches (leniency σ) (Alike Eq) (E.nest E.explain n r)
      ((E.withOptions o).nest (E.withOptions o).explain m r) := by
  have hagree := agree_relaxed ho
  induction n generalizing m r with
  | zero =>
    cases m with
    | zero => exact hagree.level fun _ => leniency.matches_exhausted fun _ => List.suffix_rfl
    | succ m => exact hagree.level fun _ => leniency.matches_exhausted (nest_affords explain_asks m _).extends
  | succ n ih =>
    cases m with
    | zero => omega
    | succ m => exact hagree.level fun _ => ih (Nat.le_of_succ_le_succ hnm) _

/-- Raising limits changes no outcome but a limit, and adds queries at the end only. -/
theorem evaluate_relaxed (E : Engine σ) (r : Request) (state : σ) (o : Options)
    (ho : E.options.RelaxedTo o) :
    let first := (E.evaluate r).runFrom (E.fresh state)
    let second := ((E.withOptions o).evaluate r).runFrom ((E.withOptions o).fresh state)
    ((∀ f, first.1 = .error f → f.isLimit = false) →
      second.1 = first.1 ∧ second.2.budget.lookups = first.2.budget.lookups ∧
        second.2.budget.voids = first.2.budget.voids ∧ second.2.queries = first.2.queries) ∧
      first.2.queries <+: second.2.queries := by
  intro first second
  have hstart : (leniency σ).together (E.fresh state) ((E.withOptions o).fresh state) :=
    ⟨rfl, rfl, rfl, rfl, ho.maxLookups_le, ho.maxVoids_le⟩
  have hends : Matched (leniency σ) (Alike Eq) first second :=
    (nest_relaxed ho ho.maxLookups_le r).together hstart
  rcases hfirst : first with ⟨x, s⟩
  rcases hsecond : second with ⟨x', s'⟩
  rw [hfirst, hsecond] at hends
  have htogether : (leniency σ).together s s' → s'.budget.lookups = s.budget.lookups ∧
      s'.budget.voids = s.budget.voids ∧ s'.queries = s.queries := by
    rintro ⟨-, hjournal, hlookups, hvoids, -, -⟩
    exact ⟨hlookups.symm, hvoids.symm, by rw [Session.queries, Session.queries, hjournal]⟩
  cases hends with
  | ok he hs =>
    exact ⟨fun _ => ⟨by rw [he.eq], htogether hs⟩, (htogether hs).2.2 ▸ List.prefix_rfl⟩
  | error hs =>
    exact ⟨fun _ => ⟨rfl, htogether hs⟩, (htogether hs).2.2 ▸ List.prefix_rfl⟩
  | parted hs =>
    refine ⟨fun h => absurd (h _ rfl) (by rw [hs.1]; decide), ?_⟩
    -- journals are kept with the last event first
    exact (List.reverse_prefix.mpr hs.2).filterMap _

/-- A policy that fails a client after an empty answer fails it under larger limits too. -/
theorem evaluate_relaxed_fail :
    let E : Engine Unit :=
      { resolver := .fixed fun
          | .txt _ => .ok ["v=spf1 a -all".toList]
          | _ => .ok []
        options := {}
        now := 0 }
    let o : Options := { maxLookups := 20, maxVoids := 5, maxDepth := 30, maxExchanges := 40 }
    let r : Request := ⟨"u@a.example".toList, "a.example".toList, .v4 ⟨1⟩, "a.example".toList, 0⟩
    E.options.RelaxedTo o ∧ ((E.evaluate r).runFrom (E.fresh ())).1 = .ok ⟨.fail, none⟩ ∧
      (((E.withOptions o).evaluate r).runFrom ((E.withOptions o).fresh ())).1 = .ok ⟨.fail, none⟩ ∧
      (((E.withOptions o).evaluate r).runFrom ((E.withOptions o).fresh ())).2.queries =
        ((E.evaluate r).runFrom (E.fresh ())).2.queries := by
  intro E o r
  have ho : E.options.RelaxedTo o := ⟨by decide, by decide, by decide, by decide, rfl⟩
  have hend : ((E.evaluate r).runFrom (E.fresh ())).1 = .ok ⟨.fail, none⟩ := by decide +kernel
  obtain ⟨hsame, -⟩ := evaluate_relaxed E r () o ho
  obtain ⟨hx, -, -, hqueries⟩ := hsame (by rw [hend]; nofun)
  exact ⟨ho, hend, hx.trans hend, hqueries⟩

end Engine

end SenderPolicy
