import SenderPolicy.Evaluation.Basic
import SenderPolicy.Proofs.Correspondence
import SenderPolicy.Proofs.Records

/-!
# Engines that agree

Two engines agree (`Engine.Agree`) if the small steps of their evaluations match: what they ask, enter, charge and
count, and which levels and mail exchanges they admit. They agree up to order (`Engine.AgreeUpToOrder`) if their answers
only tell the same, with records that may be listed in another order, and on hosts (`Engine.AgreeOnHosts`) if the texts
that domains publish are left out of that.

That is enough for all that they evaluate to match: one statement for each probe and each check, up to a level with the
levels nested in it (`AgreeUpToOrder.level`). What failures are explained with may differ, within a relation between
explanations. Where the evaluations never part, they match as a whole (`AgreeUpToOrder.evaluateWith`).
-/

namespace SenderPolicy

variable {σ τ : Type}

/-- What may be absent is related to itself if everything else is. -/
lemma rel_refl {α : Type} {P : α → α → Prop} (hP : ∀ a, P a a) (x : Option α) : Option.Rel P x x := by
  cases x with
  | none => exact .none
  | some a => exact .some (hP a)

namespace Engine

/-- Refuses levels that are too deep. -/
def admitDepth (E : Engine σ) (depth : Nat) : Check σ Unit :=
  if E.options.maxDepth < depth then throw (.depthLimit E.options.maxDepth) else pure ()

/-- Refuses names with too many mail exchanges. -/
def admitExchanges (E : Engine σ) (domain : Text) (count : Nat) : Check σ Unit :=
  if E.options.maxExchanges < count then throw (.tooManyExchanges domain count E.options.maxExchanges)
  else pure ()

/-- What follows is done where the exchanges are admitted, and not reached where they are too many. -/
lemma admitExchanges_bind {α : Type} (E : Engine σ) (domain : Text) (count : Nat) (k : Unit → Check σ α) :
    E.admitExchanges domain count >>= k =
      if E.options.maxExchanges < count then
        throw (.tooManyExchanges domain count E.options.maxExchanges) >>= k
      else k () := by
  rw [admitExchanges]
  split
  · rfl
  · rfl

/-- What a level does once it is admitted. -/
def admitted (E : Engine σ) (explainer : Explainer σ) (nested : Request → Check σ Evaluation) (r : Request) :
    Check σ Evaluation := do
  if !DomainName.isValid r.domain then return ⟨.none, none⟩
  match ← E.policyAt r.domain with
  | none => return ⟨.none, none⟩
  | some p => E.decide explainer nested r p

/-- A level is entered, then admitted by its depth, and then evaluated. -/
lemma level_eq (E : Engine σ) (explainer : Explainer σ) (nested : Request → Check σ Evaluation) (r : Request) :
    E.level explainer nested r =
      Check.enter r.domain r.depth >>= fun _ =>
        E.admitDepth r.depth >>= fun _ => E.admitted explainer nested r := by
  rw [level, admitDepth]
  by_cases hdeep : E.options.maxDepth < r.depth
  · simp only [if_pos hdeep]
    rfl
  · simp only [if_neg hdeep]
    rfl

/-- The small steps of two evaluations match. -/
structure Agree (C : Correspondence σ τ) (E₁ : Engine σ) (E₂ : Engine τ) : Prop where
  ask : ∀ q, Probe.Matches C Eq (Probe.ask E₁.resolver q) (Probe.ask E₂.resolver q)
  enter : ∀ domain depth, Check.Matches C Eq (Check.enter domain depth) (Check.enter domain depth)
  charge : Check.Matches C Eq Check.charge Check.charge
  recordVoid : Check.Matches C Eq Check.recordVoid Check.recordVoid
  admitDepth : ∀ depth, Check.Matches C Eq (E₁.admitDepth depth) (E₂.admitDepth depth)
  admitExchanges : ∀ domain count,
    Check.Matches C Eq (E₁.admitExchanges domain count) (E₂.admitExchanges domain count)
  maxPtrNames : E₁.options.maxPtrNames = E₂.options.maxPtrNames
  transaction : E₁.transaction = E₂.transaction

/-- The answers about hosts that two engines get tell the same, and they fill in targets alike. -/
structure AnswersAlike (C : Correspondence σ τ) (E₁ : Engine σ) (E₂ : Engine τ) : Prop where
  ask : ∀ q, (∀ name, q ≠ .txt name) →
    Probe.Matches C (Akin q.Rearranged) (Probe.ask E₁.resolver q) (Probe.ask E₂.resolver q)
  maxPtrNames : E₁.options.maxPtrNames = E₂.options.maxPtrNames
  targets : ∀ r name target,
    Template.expand .domain (E₁.transaction r name) target = Template.expand .domain (E₂.transaction r name) target

/-- The small steps of two evaluations match, but for the order in which answers list their records, and for the texts
that domains publish. -/
structure AgreeOnHosts (C : Correspondence σ τ) (E₁ : Engine σ) (E₂ : Engine τ) : Prop
    extends AnswersAlike C E₁ E₂ where
  enter : ∀ domain depth, Check.Matches C Eq (Check.enter domain depth) (Check.enter domain depth)
  charge : Check.Matches C Eq Check.charge Check.charge
  recordVoid : Check.Matches C Eq Check.recordVoid Check.recordVoid
  admitDepth : ∀ depth, Check.Matches C Eq (E₁.admitDepth depth) (E₂.admitDepth depth)
  admitExchanges : ∀ domain count,
    Check.Matches C Eq (E₁.admitExchanges domain count) (E₂.admitExchanges domain count)

/-- The small steps of two evaluations match, but for the order in which answers list their records. -/
structure AgreeUpToOrder (C : Correspondence σ τ) (E₁ : Engine σ) (E₂ : Engine τ) : Prop
    extends AgreeOnHosts C E₁ E₂ where
  policyAt : ∀ domain, Check.Matches C Eq (E₁.policyAt domain) (E₂.policyAt domain)

/-- Evaluations with the same verdict and related explanations. -/
def Alike (X : Option Text → Option Text → Prop) (e₁ e₂ : Evaluation) : Prop :=
  e₁.verdict = e₂.verdict ∧ X e₁.explanation e₂.explanation

/-- Evaluations that are alike with equal explanations are equal. -/
lemma Alike.eq {e₁ e₂ : Evaluation} (h : Alike Eq e₁ e₂) : e₁ = e₂ := by
  cases e₁
  cases e₂
  rw [Evaluation.mk.injEq]
  exact h

variable {C : Correspondence σ τ} {E₁ : Engine σ} {E₂ : Engine τ}

/-! ## Probes -/

namespace AnswersAlike

variable (h : AnswersAlike C E₁ E₂)

include h

/-- After a query about a host, what follows needs to match for answers that tell the same. -/
lemma ask_bind {γ δ : Type} {W : γ → δ → Prop} (q : Query) (hq : ∀ name, q ≠ .txt name) {k₁ : Answer q → Probe σ γ}
    {k₂ : Answer q → Probe τ δ} (hk : ∀ {a b}, Akin q.Rearranged a b → Probe.Matches C W (k₁ a) (k₂ b)) :
    Probe.Matches C W (Probe.ask E₁.resolver q >>= k₁) (Probe.ask E₂.resolver q >>= k₂) :=
  (h.ask q hq).bindRel (fun b => ⟨b, .refl (.refl q) b⟩) hk

/-- A check may ask about a host on the same terms as a probe. -/
lemma lift_ask_bind {γ δ : Type} {W : γ → δ → Prop} (q : Query) (hq : ∀ name, q ≠ .txt name)
    {k₁ : Answer q → Check σ γ} {k₂ : Answer q → Check τ δ}
    (hk : ∀ {a b}, Akin q.Rearranged a b → Check.Matches C W (k₁ a) (k₂ b)) :
    Check.Matches C W (liftM (Probe.ask E₁.resolver q) >>= k₁) (liftM (Probe.ask E₂.resolver q) >>= k₂) :=
  (Check.Matches.lift (h.ask q hq)).bindRel (fun b => ⟨b, .refl (.refl q) b⟩) hk

/-- The addresses of a name are the same in both, in whatever order they are listed. -/
lemma addresses (name : Text) (client : Address) :
    Probe.Matches C (Akin List.Perm) (E₁.addresses name client) (E₂.addresses name client) := by
  cases client with
  | v4 a => exact h.ask_bind (.a name) nofun fun hab => .pure (hab.map Address.v4)
  | v6 a => exact h.ask_bind (.aaaa name) nofun fun hab => .pure (hab.map Address.v6)

/-- A name leads back to the client in both or in neither. -/
lemma confirms (client : Address) (name : Text) :
    Probe.Matches C Eq (E₁.confirms client name) (E₂.confirms client name) := by
  refine (h.addresses name client).bindRel (fun b => ⟨b, .refl .refl b⟩) fun hab => ?_
  cases hab with
  | found hperm => exact .pure hperm.contains_eq
  | absent => exact .pure rfl
  | failed e => exact .pure rfl

/-- The reverse names of the client are listed in the same order in both. -/
lemma reverseNames (client : Address) :
    Probe.Matches C Eq (E₁.reverseNames client) (E₂.reverseNames client) := by
  refine h.ask_bind (.ptr client) nofun fun hab => ?_
  rcases hab.records with ⟨l, m, hl, hm, hlm⟩ | ⟨e, hl, hm⟩
  · rw [hl, hm]
    exact .pure (congrArg some hlm)
  · rw [hl, hm]
    exact .pure rfl

/-- The same names are confirmed in both, and in the same order. -/
lemma confirmed (client : Address) (names : List Text) :
    Probe.Matches C Eq (E₁.confirmed client names) (E₂.confirmed client names) := by
  rw [Engine.confirmed, Engine.confirmed, h.maxPtrNames]
  exact .filterM (h.confirms client) _

/-- Templates refer to the same name of the client in both. -/
lemma validatedName (r : Request) :
    Probe.Matches C Eq (E₁.validatedName r) (E₂.validatedName r) :=
  (h.reverseNames r.client).bind fun _ => (h.confirmed r.client _).bind fun _ => .pure rfl

/-- Templates match if their texts do, whatever name of the client is filled in. -/
lemma expand {V : Except Template.Error Text → Except Template.Error Text → Prop} (scope : Scope) (r : Request)
    (template : Text) (hV : ∀ name, V (Template.expand scope (E₁.transaction r name) template)
      (Template.expand scope (E₂.transaction r name) template)) :
    Probe.Matches C V (E₁.expand scope r template) (E₂.expand scope r template) := by
  rw [Engine.expand, Engine.expand]
  split
  · exact (h.validatedName r).bind fun name => .pure (hV name)
  · exact .pure (hV none)

/-- Targets expand to the same domain in both. -/
lemma expandDomain (r : Request) (target : Text) :
    Probe.Matches C Eq (E₁.expandDomain r target) (E₂.expandDomain r target) :=
  (h.expand .domain r target fun name => h.targets r name target).bind fun _ => .pure rfl

/-- Explanations match if texts are listed in the same order, since the first one is used, and if what is made of that
text matches. -/
lemma explain {X : Option Text → Option Text → Prop} (hX : ∀ x, X x x)
    (htxt : ∀ domain, Probe.Matches C (Akin Eq) (Probe.ask E₁.resolver (.txt domain))
      (Probe.ask E₂.resolver (.txt domain)))
    (p : Policy) (r : Request)
    (htext : ∀ name text, X (Template.expand .explanation (E₁.transaction r name) text).toOption
      (Template.expand .explanation (E₂.transaction r name) text).toOption) :
    Probe.Matches C X (E₁.explain p r) (E₂.explain p r) := by
  rw [Engine.explain, Engine.explain]
  split
  · refine (h.expandDomain r _).bind fun domain => ?_
    split
    · split
      · exact .pure (hX none)
      · refine (htxt _).bindRel (fun b => ⟨b, .refl (fun _ => rfl) b⟩) fun hab => ?_
        cases hab with
        | found hlm =>
          -- in the same order, so the first text is the same
          subst hlm
          split
          · next text _ _ =>
            exact (h.expand .explanation r text fun name => htext name text).bindRel (fun b => ⟨b, hX _⟩) .pure
          · exact .pure (hX none)
        | absent => exact .pure (hX none)
        | failed e => exact .pure (hX none)
    · exact .pure (hX none)
  · exact .pure (hX none)

end AnswersAlike

/-! ## Checks -/

/-- Policies match if the texts that they are among do, in whatever order. -/
lemma matches_policyAt {domain : Text} (htxt : Probe.Matches C (Akin List.Perm) (Probe.ask E₁.resolver (.txt domain))
      (Probe.ask E₂.resolver (.txt domain))) : Check.Matches C Eq (E₁.policyAt domain) (E₂.policyAt domain) := by
  refine (Check.Matches.lift htxt).bindRel (fun b => ⟨b, .refl .refl b⟩) fun hab => ?_
  rcases Akin.records (q := .txt domain) hab with ⟨l, m, hl, hm, hlm⟩ | ⟨e, hl, hm⟩
  · simp only [hl, hm, Policy.ofAnswers_eq_of_perm hlm]
    split
    · exact .pure rfl
    · exact .throw _
  · simp only [hl, hm]
    exact .throw _

namespace AgreeOnHosts

variable (h : AgreeOnHosts C E₁ E₂)

include h

/-- The domain of a target is the same in both, or the same error. -/
lemma targetDomain (r : Request) (target : Text) :
    Check.Matches C Eq (E₁.targetDomain r target) (E₂.targetDomain r target) := by
  refine (Check.Matches.lift (h.expandDomain r target)).bind fun domain => ?_
  cases domain with
  | ok domain => exact .pure rfl
  | error e => exact .throw _

/-- So is the domain of a target that may be missing. -/
lemma domainOrOwn (r : Request) (target : Option Text) :
    Check.Matches C Eq (E₁.domainOrOwn r target) (E₂.domainOrOwn r target) := by
  cases target with
  | some target => exact h.targetDomain r target
  | none => exact .pure rfl

/-- An empty answer is counted in both. -/
lemma recordVoid_bind {γ δ : Type} {W : γ → δ → Prop} {a : γ} {b : δ} (hab : W a b) :
    Check.Matches C W (Check.recordVoid >>= fun _ => pure a) (Check.recordVoid >>= fun _ => pure b) :=
  h.recordVoid.bind fun _ => .pure hab

/-- The addresses of a name are the same in both but for their order, and counted if there are none. -/
lemma countedAddresses (name : Text) (client : Address) :
    Check.Matches C List.Perm (E₁.countedAddresses name client) (E₂.countedAddresses name client) := by
  refine (Check.Matches.lift (h.addresses name client)).bindRel (fun b => ⟨b, .refl .refl b⟩) fun hab => ?_
  cases hab with
  | @found l m hperm =>
    rcases l with _ | ⟨a, l⟩
    · obtain rfl := List.nil_perm.mp hperm
      exact h.recordVoid_bind hperm
    · rcases m with _ | ⟨b, m⟩
      · cases hperm.length_eq
      · exact .pure hperm
  | absent => exact h.recordVoid_bind (.refl [])
  | failed e =>
    split
    · exact h.recordVoid_bind (.refl [])
    · exact h.recordVoid_bind (.refl [])
    · exact .pure (.refl _)
    · exact .throw _

/-- A name is near the client in both or in neither, since the order of its addresses does not count. -/
lemma nearName (name : Text) (lengths : Lengths) (client : Address) :
    Check.Matches C Eq (E₁.nearName name lengths client) (E₂.nearName name lengths client) :=
  (h.countedAddresses name client).bindRel (fun b => ⟨b, .refl b⟩) fun hperm =>
    .pure (lengths.coverAny_eq_of_perm hperm client)

/-- Exchanges that are tried in the same order have the same end in both. -/
lemma nearExchange (lengths : Lengths) (client : Address) (xs : List Exchange) :
    Check.Matches C Eq (E₁.nearExchange lengths client xs) (E₂.nearExchange lengths client xs) := by
  induction xs with
  | nil => exact .pure rfl
  | cons x xs ih =>
    refine h.charge.bind fun _ => (h.nearName x.name lengths client).bind fun near => ?_
    split
    · exact .pure rfl
    · exact ih

/-- Exchanges are counted and sorted, in whatever order they are listed. -/
lemma nearSorted (domain : Text) (lengths : Lengths) (client : Address) {xs ys : List Exchange} (hperm : xs.Perm ys) :
    Check.Matches C Eq
      (E₁.admitExchanges domain xs.length >>= fun _ =>
        E₁.nearExchange lengths client (Sorting.sort Exchange.before xs))
      (E₂.admitExchanges domain ys.length >>= fun _ =>
        E₂.nearExchange lengths client (Sorting.sort Exchange.before ys)) := by
  rw [hperm.length_eq, Sorting.sort_eq_of_perm hperm]
  exact (h.admitExchanges domain ys.length).bind fun _ => h.nearExchange lengths client _

/-- The exchanges of a domain have the same end in both, in whatever order they are listed. -/
lemma nearAnyExchange (domain : Text) (lengths : Lengths) (client : Address) :
    Check.Matches C Eq (E₁.nearAnyExchange domain lengths client) (E₂.nearAnyExchange domain lengths client) := by
  refine h.lift_ask_bind (.mx domain) nofun fun hab => ?_
  rcases hab.records with ⟨l, m, hl, hm, hlm⟩ | ⟨e, hl, hm⟩
  · rw [hl, hm]
    rcases l with _ | ⟨x, l⟩
    · obtain rfl := List.nil_perm.mp hlm
      exact h.recordVoid_bind rfl
    · rcases m with _ | ⟨y, m⟩
      · cases hlm.length_eq
      · -- the guard is inlined in the check; it matches as a check of its own
        have hsorted := h.nearSorted domain lengths client hlm
        rw [admitExchanges_bind, admitExchanges_bind] at hsorted
        exact hsorted
  · rw [hl, hm]
    exact .throw _

/-- The client is named below a domain in both or in neither. -/
lemma namedBelow (domain : Text) (client : Address) :
    Check.Matches C Eq (E₁.namedBelow domain client) (E₂.namedBelow domain client) := by
  refine (Check.Matches.lift (h.reverseNames client)).bind fun names => ?_
  split
  · exact .pure rfl
  · exact h.recordVoid_bind rfl
  · exact (Check.Matches.lift (h.confirmed client _)).bind fun _ => .pure rfl

/-- A domain has an address in both or in neither. -/
lemma hasAddress (domain : Text) : Check.Matches C Eq (E₁.hasAddress domain) (E₂.hasAddress domain) := by
  refine h.lift_ask_bind (.a domain) nofun fun hab => ?_
  rcases hab.records with ⟨l, m, hl, hm, hlm⟩ | ⟨e, hl, hm⟩
  · rw [hl, hm]
    rcases l with _ | ⟨a, l⟩
    · obtain rfl := List.nil_perm.mp hlm
      exact h.recordVoid_bind rfl
    · rcases m with _ | ⟨b, m⟩
      · cases hlm.length_eq
      · exact .pure rfl
  · rw [hl, hm]
    exact .throw _

/-! ## Levels -/

variable {X : Option Text → Option Text → Prop} (hX : ∀ x, X x x) {r : Request}
  {n₁ : Request → Check σ Evaluation} {n₂ : Request → Check τ Evaluation}
  (hn : ∀ domain, Check.Matches C (Alike X) (n₁ (r.descend domain)) (n₂ (r.descend domain)))

include hX hn

omit h in
/-- A domain passes the client in both or in neither if the nested evaluations are alike. -/
lemma passedBy (domain : Text) : Check.Matches C Eq (Engine.passedBy n₁ r domain) (Engine.passedBy n₂ r domain) := by
  refine (hn domain).bindRel (fun e => ⟨e, rfl, hX _⟩) fun {e₁ e₂} he => ?_
  rw [he.1]
  split
  · exact .pure rfl
  · exact .throw _
  · exact .pure rfl

/-- A mechanism matches in both or in neither if the nested evaluations are alike. -/
lemma matchesClient (m : Mechanism) :
    Check.Matches C Eq (E₁.matchesClient n₁ r m) (E₂.matchesClient n₂ r m) := by
  cases m with
  | all => exact .pure rfl
  | includes target =>
    exact h.charge.bind fun _ => (h.targetDomain r target).bind fun domain => passedBy hX hn domain
  | a target lengths =>
    exact h.charge.bind fun _ => (h.domainOrOwn r target).bind fun domain => h.nearName domain lengths r.client
  | mx target lengths =>
    exact h.charge.bind fun _ => (h.domainOrOwn r target).bind fun domain =>
      h.nearAnyExchange domain lengths r.client
  | ptr target =>
    exact h.charge.bind fun _ => (h.domainOrOwn r target).bind fun domain => h.namedBelow domain r.client
  | ip4 network length => exact .pure rfl
  | ip6 network length => exact .pure rfl
  | existing target =>
    exact h.charge.bind fun _ => (h.targetDomain r target).bind fun domain => h.hasAddress domain

/-- The same directive is the first to match in both. -/
lemma firstMatch (ds : List Directive) :
    Check.Matches C Eq (E₁.firstMatch n₁ r ds) (E₂.firstMatch n₂ r ds) := by
  induction ds with
  | nil => exact .pure rfl
  | cons d ds ih =>
    refine (h.matchesClient hX hn d.mechanism).bind fun found => ?_
    split
    · exact .pure rfl
    · exact ih

/-- What a redirection hands over to ends alike in both. -/
lemma redirected (target : Text) :
    Check.Matches C (Alike X) (E₁.redirected n₁ r target) (E₂.redirected n₂ r target) := by
  refine h.charge.bind fun _ => (h.targetDomain r target).bind fun domain => ?_
  refine (hn domain).bindRel (fun e => ⟨e, rfl, hX _⟩) fun {e₁ e₂} he => ?_
  rw [he.1]
  split
  · exact (Check.Matches.throw (.redirectWithoutPolicy domain)).bind fun _ => .pure he
  · exact .pure he

variable {x₁ : Explainer σ} {x₂ : Explainer τ}

/-- A policy decides alike in both if its explanations match. -/
lemma decide (hx : ∀ p, Probe.Matches C X (x₁ p r) (x₂ p r)) (p : Policy) :
    Check.Matches C (Alike X) (E₁.decide x₁ n₁ r p) (E₂.decide x₂ n₂ r p) := by
  refine (h.firstMatch hX hn p.directives).bind fun found => ?_
  split
  · split
    · exact (Check.Matches.lift (hx p)).bindRel (fun b => ⟨b, hX b⟩) fun hab => .pure ⟨rfl, hab⟩
    · exact (Check.Matches.pure rfl).bind fun _ => .pure ⟨rfl, hX _⟩
  · split
    · exact h.redirected hX hn _
    · exact .pure ⟨rfl, hX none⟩

omit hn in
/-- Levels match if the policies at their domains do, and the decisions by matching policies. -/
lemma level_of_policies {P : Policy → Policy → Prop} (hP : ∀ p, P p p)
    (hpolicy : Check.Matches C (Option.Rel P) (E₁.policyAt r.domain) (E₂.policyAt r.domain))
    (hdecide : ∀ {p q}, P p q → Check.Matches C (Alike X) (E₁.decide x₁ n₁ r p) (E₂.decide x₂ n₂ r q)) :
    Check.Matches C (Alike X) (E₁.level x₁ n₁ r) (E₂.level x₂ n₂ r) := by
  rw [level_eq, level_eq]
  refine (h.enter _ _).bind fun _ => (h.admitDepth _).bind fun _ => ?_
  rw [admitted, admitted]
  split
  · exact .pure ⟨rfl, hX none⟩
  · refine hpolicy.bindRel (fun b => ⟨b, rel_refl hP b⟩) fun hpq => ?_
    cases hpq with
    | none => exact .pure ⟨rfl, hX none⟩
    | some hpq => exact hdecide hpq

end AgreeOnHosts

/-- Levels match if the levels nested in them and their explanations do. -/
theorem AgreeUpToOrder.level (h : AgreeUpToOrder C E₁ E₂) {X : Option Text → Option Text → Prop} (hX : ∀ x, X x x)
    {r : Request} {n₁ : Request → Check σ Evaluation} {n₂ : Request → Check τ Evaluation}
    (hn : ∀ domain, Check.Matches C (Alike X) (n₁ (r.descend domain)) (n₂ (r.descend domain))) {x₁ : Explainer σ}
    {x₂ : Explainer τ} (hx : ∀ p, Probe.Matches C X (x₁ p r) (x₂ p r)) :
    Check.Matches C (Alike X) (E₁.level x₁ n₁ r) (E₂.level x₂ n₂ r) := by
  have hpolicy : Check.Matches C (Option.Rel Eq) (E₁.policyAt r.domain) (E₂.policyAt r.domain) :=
    (h.policyAt r.domain).mono fun {a b} hab => hab ▸ rel_refl (fun _ => rfl) a
  exact h.level_of_policies hX (fun _ => rfl) hpolicy fun {p q} hpq => hpq ▸ h.decide hX hn hx p

namespace Agree

variable (h : Agree C E₁ E₂)

include h

/-- Engines whose steps match agree up to order as well. -/
lemma upToOrder : AgreeUpToOrder C E₁ E₂ where
  ask q _ := (h.ask q).mono Akin.of_answer_eq
  maxPtrNames := h.maxPtrNames
  targets r name target := by rw [h.transaction]
  policyAt domain := matches_policyAt ((h.ask (.txt domain)).mono Akin.of_answer_eq)
  enter := h.enter
  charge := h.charge
  recordVoid := h.recordVoid
  admitDepth := h.admitDepth
  admitExchanges := h.admitExchanges

/-- Engines whose steps match explain a failure in the same way. -/
lemma explain (p : Policy) (r : Request) : Probe.Matches C Eq (E₁.explain p r) (E₂.explain p r) :=
  h.upToOrder.explain (fun _ => rfl) (fun domain => (h.ask (.txt domain)).mono .of_eq) p r fun name text => by
    rw [h.transaction]

/-- Levels that explain themselves match if the levels nested in them do. -/
lemma level {n₁ : Request → Check σ Evaluation} {n₂ : Request → Check τ Evaluation} {r : Request}
    (hn : ∀ domain, Check.Matches C (Alike Eq) (n₁ (r.descend domain)) (n₂ (r.descend domain))) :
    Check.Matches C (Alike Eq) (E₁.level E₁.explain n₁ r) (E₂.level E₂.explain n₂ r) :=
  h.upToOrder.level (fun _ => rfl) hn fun p => h.explain p r

end Agree

/-! ## Evaluations that never part -/

/-- What templates refer to depends on the engine by its options and the time only. -/
lemma transaction_eq (hoptions : E₁.options = E₂.options) (hnow : E₁.now = E₂.now) :
    E₁.transaction = E₂.transaction := by
  funext r name
  rw [transaction, transaction, hoptions, hnow]

section

variable (hC : C.Inseparable E₁.resolver E₂.resolver)

include hC

/-- Under the same limits, engines agree on hosts if their answers do. -/
lemma AnswersAlike.agreeOnHosts (h : AnswersAlike C E₁ E₂) (hdepth : E₁.options.maxDepth = E₂.options.maxDepth)
    (hexchanges : E₁.options.maxExchanges = E₂.options.maxExchanges) : AgreeOnHosts C E₁ E₂ where
  toAnswersAlike := h
  enter := hC.matches_enter
  charge := hC.matches_charge
  recordVoid := hC.matches_recordVoid
  admitDepth depth := by
    rw [admitDepth, admitDepth, hdepth]
    exact .guard _
  admitExchanges domain count := by
    rw [admitExchanges, admitExchanges, hexchanges]
    exact .guard _

/-- Under the same options and at the same time, engines agree up to order if their answers do. -/
lemma agreeUpToOrder_of_inseparable
    (hask : ∀ q, Probe.Matches C (Akin q.Rearranged) (Probe.ask E₁.resolver q) (Probe.ask E₂.resolver q))
    (hoptions : E₁.options = E₂.options) (hnow : E₁.now = E₂.now) : AgreeUpToOrder C E₁ E₂ := by
  have hanswers : AnswersAlike C E₁ E₂ := by
    refine ⟨fun q _ => hask q, congrArg Options.maxPtrNames hoptions, fun r name target => ?_⟩
    rw [transaction_eq hoptions hnow]
  exact ⟨hanswers.agreeOnHosts hC (congrArg Options.maxDepth hoptions) (congrArg Options.maxExchanges hoptions),
    fun domain => matches_policyAt (hask (.txt domain))⟩

section

variable (h : AgreeUpToOrder C E₁ E₂) {X : Option Text → Option Text → Prop} (hX : ∀ x, X x x) {x₁ : Explainer σ}
  {x₂ : Explainer τ}

include h hX

/-- By induction on how deep levels may nest. Explanations need to match for levels as deep as the first only. -/
lemma AgreeUpToOrder.nest (n : Nat) {r : Request}
    (hx : ∀ p r', r.depth ≤ r'.depth → Probe.Matches C X (x₁ p r') (x₂ p r')) :
    Check.Matches C (Alike X) (E₁.nest x₁ n r) (E₂.nest x₂ n r) := by
  induction n generalizing r with
  | zero => exact h.level hX (fun _ => hC.matches_exhausted) fun p => hx p r (Nat.le_refl _)
  | succ n ih =>
    refine h.level hX (fun domain => ih fun p r' hr' => hx p r' ?_) fun p => hx p r (Nat.le_refl _)
    exact (Nat.le_succ _).trans hr'

/-- Evaluations that start together end together, with the same verdict or the same failure. -/
theorem AgreeUpToOrder.evaluateWith {s₁ : Session σ} {s₂ : Session τ} (hs : C.together s₁ s₂) {r : Request}
    (hx : ∀ p r', r.depth ≤ r'.depth → Probe.Matches C X (x₁ p r') (x₂ p r')) :
    Matched C (Alike X) ((E₁.evaluateWith x₁ r).runFrom s₁) ((E₂.evaluateWith x₂ r).runFrom s₂) := by
  have hnest := (h.nest hC hX s₁.budget.remaining hx).together hs
  have hrun : (E₂.evaluateWith x₂ r).runFrom s₂ = (E₂.nest x₂ s₁.budget.remaining r).runFrom s₂ := by
    rw [hC.budget_eq hs]
    rfl
  rw [hrun]
  exact hnest

end

/-- Evaluations over answers that tell the same in the same order end with the same explanation, too. -/
theorem evaluate_of_inseparable
    (hask : ∀ q, Probe.Matches C (Akin Eq) (Probe.ask E₁.resolver q) (Probe.ask E₂.resolver q))
    (hoptions : E₁.options = E₂.options) (hnow : E₁.now = E₂.now) {s₁ : Session σ} {s₂ : Session τ}
    (hs : C.together s₁ s₂) (r : Request) :
    Matched C (Alike Eq) ((E₁.evaluate r).runFrom s₁) ((E₂.evaluate r).runFrom s₂) := by
  have h : AgreeUpToOrder C E₁ E₂ :=
    agreeUpToOrder_of_inseparable hC (fun q => (hask q).mono (.mono .of_eq)) hoptions hnow
  refine h.evaluateWith hC (fun _ => rfl) hs fun p r' _ => ?_
  refine h.explain (fun _ => rfl) (fun domain => hask (.txt domain)) p r' fun name text => ?_
  rw [transaction_eq hoptions hnow]

end

end Engine

namespace Matched

variable {C : Correspondence σ τ} {e₁ : Except Failure Evaluation × Session σ}
  {e₂ : Except Failure Evaluation × Session τ} (hC : ∀ {f s₁ s₂}, ¬C.parted f s₁ s₂)

include hC

/-- Matched ends of evaluations that never part tell the same of what related evaluations have in common. -/
lemma map_eq {α : Type} {V : Evaluation → Evaluation → Prop} {f : Evaluation → α} (h : Matched C V e₁ e₂)
    (hf : ∀ {a b}, V a b → f a = f b) : e₁.1.map f = e₂.1.map f ∧ C.together e₁.2 e₂.2 := by
  cases h with
  | ok he hs => exact ⟨congrArg Except.ok (hf he), hs⟩
  | error hs => exact ⟨rfl, hs⟩
  | parted hs => exact absurd hs hC

/-- They have the same verdict or the same failure. -/
lemma verdict_eq {X : Option Text → Option Text → Prop} (h : Matched C (Engine.Alike X) e₁ e₂) :
    e₁.1.map Evaluation.verdict = e₂.1.map Evaluation.verdict ∧ C.together e₁.2 e₂.2 :=
  h.map_eq hC fun he => he.1

/-- Ends that match with equal evaluations are equal. -/
lemma result_eq (h : Matched C (Engine.Alike Eq) e₁ e₂) : e₁.1 = e₂.1 ∧ C.together e₁.2 e₂.2 := by
  cases h with
  | ok he hs => exact ⟨congrArg Except.ok he.eq, hs⟩
  | error hs => exact ⟨rfl, hs⟩
  | parted hs => exact absurd hs hC

end Matched

end SenderPolicy
