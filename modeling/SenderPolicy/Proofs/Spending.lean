import SenderPolicy.Evaluation.Basic
import SenderPolicy.Proofs.Allowance

/-!
# What an evaluation spends

One statement for each probe and each check of an engine: the probes `Asks` so many queries, the checks `Affords`
what they do. A mechanism that needs a lookup is charged for it, so the whole of it costs nothing beyond what it
earns (`matchesClient_affords`); a level costs its policy and one explanation (`level_affords`), which the charge
before an inclusion or a redirection earns for the level nested in it.

The result for a whole evaluation, `evaluate_affords`, is by induction on how deep levels may nest.
-/

namespace SenderPolicy.Engine

variable {σ : Type} {E : Engine σ} {depth : Nat}

/-- What one level costs by itself: a policy, and an explanation with its two templates. -/
def levelCost (E : Engine σ) : Nat :=
  2 * E.options.maxPtrNames + 4

/-! ## Probes -/

/-- The addresses of a name cost the query for the client's family. -/
lemma addresses_asks (name : Text) (client : Address) : E.Asks 1 (E.addresses name client) := by
  cases client with
  | v4 a => exact (asks_ask _).bind_free fun _ => asks_pure _
  | v6 a => exact (asks_ask _).bind_free fun _ => asks_pure _

/-- To confirm a name costs the query for its addresses. -/
lemma confirms_asks (client : Address) (name : Text) : E.Asks 1 (E.confirms client name) := by
  refine (addresses_asks name client).bind_free fun answer => ?_
  cases answer with
  | ok found => exact asks_pure _
  | error e => exact asks_pure _

/-- The reverse names of the client cost one query. -/
lemma reverseNames_asks (client : Address) : E.Asks 1 (E.reverseNames client) := by
  refine (asks_ask _).bind_free fun answer => ?_
  rcases answer.records with e | names
  · exact asks_pure _
  · exact asks_pure _

/-- To confirm names costs one query for each of those that are looked at. -/
lemma confirmed_asks (client : Address) (names : List Text) :
    E.Asks E.options.maxPtrNames (E.confirmed client names) :=
  (asks_filterM (confirms_asks client) _).mono (List.length_take_le _ _)

/-- The name that templates refer to costs the reverse names and their confirmation. -/
lemma validatedName_asks (r : Request) : E.Asks (E.options.maxPtrNames + 1) (E.validatedName r) := by
  have hconfirmed := fun names : Option (List Text) =>
    (confirmed_asks (E := E) r.client (names.getD [])).bind_free fun kept =>
      asks_pure (preferred r.domain kept)
  exact ((reverseNames_asks r.client).bind hconfirmed).mono (by omega)

/-- A template costs at most the name that it refers to. -/
lemma expand_asks (scope : Scope) (r : Request) (template : Text) :
    E.Asks (E.options.maxPtrNames + 1) (E.expand scope r template) := by
  rw [expand]
  split
  · exact (validatedName_asks r).bind_free fun _ => asks_pure _
  · exact (asks_pure none).bind_free fun _ => asks_pure _

/-- The domain of a target costs what its template does. -/
lemma expandDomain_asks (r : Request) (target : Text) :
    E.Asks (E.options.maxPtrNames + 1) (E.expandDomain r target) :=
  (expand_asks .domain r target).bind_free fun _ => asks_pure _

/-- An explanation costs two templates and the query for its text. -/
lemma explain_asks (p : Policy) (r : Request) :
    E.Asks (2 * E.options.maxPtrNames + 3) (E.explain p r) := by
  rw [explain]
  split
  · refine ((expandDomain_asks r _).bind (n := E.options.maxPtrNames + 2) fun domain => ?_).mono (by omega)
    split
    · split
      · exact asks_pure _
      · refine ((asks_ask _).bind (n := E.options.maxPtrNames + 1) fun answer => ?_).mono (by omega)
        split
        · exact (expand_asks .explanation r _).bind_free fun _ => asks_pure _
        · exact asks_pure _
    · exact asks_pure _
  · exact asks_pure _

/-! ## Checks -/

/-- A check that needs the domain of a target spends what its template costs. -/
lemma targetDomain_affords (r : Request) (target : Text) :
    E.Affords depth (E.options.maxPtrNames + 1) 0 (E.targetDomain r target) := by
  refine (expandDomain_asks r target).affords.bind_free fun domain => ?_
  cases domain with
  | ok domain => exact affords_pure _
  | error e => exact affords_throw nofun nofun

/-- Without a target even that is not spent. -/
lemma domainOrOwn_affords (r : Request) (target : Option Text) :
    E.Affords depth (E.options.maxPtrNames + 1) 0 (E.domainOrOwn r target) := by
  cases target with
  | some target => exact targetDomain_affords r target
  | none => exact affords_pure _

/-- The policy of a domain costs one query, and none of its failures is about a counter. -/
lemma policyAt_affords (domain : Text) : E.Affords depth 1 0 (E.policyAt domain) := by
  refine (asks_ask _).affords.bind_free fun answer => ?_
  split
  · exact affords_throw (by simp) (by simp)
  · split
    · exact affords_pure _
    · exact affords_throw (by simp) (by simp)

/-- An empty answer is counted, and the check goes on. -/
lemma recordVoid_bind_affords {α : Type} (a : α) :
    E.Affords depth 0 1 (Check.recordVoid >>= fun _ => pure a) :=
  affords_recordVoid.bind_free fun _ => affords_pure a

/-- The addresses of a name cost one query, and an empty answer at worst. -/
lemma countedAddresses_affords (name : Text) (client : Address) :
    E.Affords depth 1 1 (E.countedAddresses name client) := by
  refine (addresses_asks name client).affords.bind (v := 0) (a := 0) (b := 1) fun answer => ?_
  split
  · exact recordVoid_bind_affords _
  · exact recordVoid_bind_affords _
  · exact affords_pure _
  · exact affords_throw nofun nofun

/-- To compare the addresses of a name costs what they do. -/
lemma nearName_affords (name : Text) (lengths : Lengths) (client : Address) :
    E.Affords depth 1 1 (E.nearName name lengths client) :=
  (countedAddresses_affords name client).bind_free fun _ => affords_pure _

/-- Each exchange is charged, and the charge pays for its addresses. -/
lemma nearExchange_affords (lengths : Lengths) (client : Address) (xs : List Exchange) :
    E.Affords depth 0 0 (E.nearExchange lengths client xs) := by
  induction xs generalizing depth with
  | nil => exact affords_pure _
  | cons x xs ih =>
    refine affords_charge_bind (q := 1) (v := 1) ?_ (Nat.le_add_left 1 _) (Nat.le_refl 1)
    refine (nearName_affords x.name lengths client).bind_free fun near => ?_
    split
    · exact affords_pure _
    · exact ih

/-- The exchanges of a domain cost one query or an empty answer; trying them is paid for by charges. -/
lemma nearAnyExchange_affords (domain : Text) (lengths : Lengths) (client : Address) :
    E.Affords depth 1 1 (E.nearAnyExchange domain lengths client) := by
  refine (asks_ask _).affords.bind (v := 0) (a := 0) (b := 1) fun answer => ?_
  split
  · exact affords_throw nofun nofun
  · exact recordVoid_bind_affords _
  · split
    · exact affords_throw_bind (f := .tooManyExchanges _ _ _) nofun nofun
    · exact (nearExchange_affords _ _ _).mono (Nat.le_refl 0) (Nat.zero_le 1)

/-- The names of the client cost their query and their confirmation, or an empty answer. -/
lemma namedBelow_affords (domain : Text) (client : Address) :
    E.Affords depth (E.options.maxPtrNames + 1) 1 (E.namedBelow domain client) := by
  refine Affords.mono (q := 1 + E.options.maxPtrNames) ?_ (by omega) (Nat.le_refl 1)
  refine (reverseNames_asks client).affords.bind (v := 0) (b := 1) fun names => ?_
  split
  · exact affords_pure _
  · exact (recordVoid_bind_affords _).mono (Nat.zero_le _) (Nat.le_refl 1)
  · exact (confirmed_asks client _).affords.bind_free fun _ => affords_pure _

/-- That a domain has an address costs one query, and an empty answer at worst. -/
lemma hasAddress_affords (domain : Text) : E.Affords depth 1 1 (E.hasAddress domain) := by
  refine (asks_ask _).affords.bind (v := 0) (a := 0) (b := 1) fun answer => ?_
  split
  · exact recordVoid_bind_affords _
  · exact affords_pure _
  · exact affords_throw nofun nofun

/-! ## Levels -/

/-- A nested evaluation costs what one level costs. -/
abbrev NestedAffords (E : Engine σ) (depth : Nat) (nested : Request → Check σ Evaluation) : Prop :=
  ∀ r, r.depth = depth → E.Affords depth E.levelCost 0 (nested r)

variable {nested : Request → Check σ Evaluation} {explainer : Explainer σ}

/-- To include a level costs what the nested evaluation does. -/
lemma passedBy_affords (hnested : E.NestedAffords (depth + 1) nested) {r : Request} (hr : r.depth = depth)
    (domain : Text) : E.Affords (depth + 1) E.levelCost 0 (passedBy nested r domain) := by
  refine (hnested (r.descend domain) (congrArg (· + 1) hr)).bind_free fun evaluation => ?_
  split
  · exact affords_pure _
  · exact affords_throw nofun nofun
  · exact affords_pure _

/-- The charge of a mechanism pays for all it does, also for the level that an inclusion evaluates. -/
lemma matchesClient_affords (hnested : E.NestedAffords (depth + 1) nested) {r : Request}
    (hr : r.depth = depth) (m : Mechanism) : E.Affords depth 0 0 (E.matchesClient nested r m) := by
  cases m with
  | all => exact affords_pure _
  | includes target =>
    -- the level below pays for its own directives, so the charge has to cover only what a level costs by itself
    refine affords_charge_bind (v := 0) ((targetDomain_affords r target).bind fun domain =>
      passedBy_affords hnested hr domain) ?_ (Nat.zero_le 1)
    rw [levelCost, Options.earned]
    omega
  | a target lengths =>
    refine affords_charge_bind ((domainOrOwn_affords r target).bind fun domain =>
      nearName_affords domain lengths r.client) ?_ (Nat.le_refl 1)
    rw [Options.earned]
    omega
  | mx target lengths =>
    refine affords_charge_bind ((domainOrOwn_affords r target).bind fun domain =>
      nearAnyExchange_affords domain lengths r.client) ?_ (Nat.le_refl 1)
    rw [Options.earned]
    omega
  | ptr target =>
    refine affords_charge_bind ((domainOrOwn_affords r target).bind fun domain =>
      namedBelow_affords domain r.client) ?_ (Nat.le_refl 1)
    rw [Options.earned]
    omega
  | ip4 network length => exact affords_pure _
  | ip6 network length => exact affords_pure _
  | existing target =>
    refine affords_charge_bind ((targetDomain_affords r target).bind fun domain =>
      hasAddress_affords domain) ?_ (Nat.le_refl 1)
    rw [Options.earned]
    omega

/-- Directives cost nothing beyond what their charges earn, however many are tried. -/
lemma firstMatch_affords (hnested : E.NestedAffords (depth + 1) nested) {r : Request} (hr : r.depth = depth)
    (ds : List Directive) : E.Affords depth 0 0 (E.firstMatch nested r ds) := by
  induction ds with
  | nil => exact affords_pure _
  | cons d ds ih =>
    refine (matchesClient_affords hnested hr d.mechanism).bind_free fun found => ?_
    split
    · exact affords_pure _
    · exact ih

/-- The charge of a redirection pays for the level that it hands over to. -/
lemma redirected_affords (hnested : E.NestedAffords (depth + 1) nested) {r : Request} (hr : r.depth = depth)
    (target : Text) : E.Affords depth 0 0 (E.redirected nested r target) := by
  refine affords_charge_bind (q := E.options.maxPtrNames + 1 + E.levelCost) (v := 0) ?_ ?_ (Nat.zero_le 1)
  · refine (targetDomain_affords r target).bind (v := 0) (b := 0) fun domain => ?_
    refine (hnested (r.descend domain) (congrArg (· + 1) hr)).bind_free fun evaluation => ?_
    split
    · exact affords_throw_bind (f := .redirectWithoutPolicy _) nofun nofun
    · exact affords_pure _
  · rw [levelCost, Options.earned]
    omega

/-- A decision costs an explanation at most; a redirection pays for itself. -/
lemma decide_affords (hexplainer : ∀ p r, E.Asks (2 * E.options.maxPtrNames + 3) (explainer p r))
    (hnested : E.NestedAffords (depth + 1) nested) {r : Request} (hr : r.depth = depth) (p : Policy) :
    E.Affords depth (2 * E.options.maxPtrNames + 3) 0 (E.decide explainer nested r p) := by
  rw [← Nat.zero_add (2 * E.options.maxPtrNames + 3)]
  refine (firstMatch_affords hnested hr p.directives).bind (b := 0) fun found => ?_
  split
  · split
    · exact (hexplainer p r).affords.bind_free fun _ => affords_pure _
    · exact (affords_pure none).bind_free fun _ => affords_pure _
  · split
    · exact (redirected_affords hnested hr _).mono (Nat.zero_le _) (Nat.le_refl 0)
    · exact affords_pure _

/-- A level costs its policy and at most one explanation. -/
lemma level_affords (hexplainer : ∀ p r, E.Asks (2 * E.options.maxPtrNames + 3) (explainer p r))
    (hnested : E.NestedAffords (depth + 1) nested) {r : Request} (hr : r.depth = depth) :
    E.Affords depth E.levelCost 0 (E.level explainer nested r) := by
  subst hr
  rw [level]
  by_cases hdeep : E.options.maxDepth < r.depth
  · simp only [if_pos hdeep]
    exact affords_enter_tooDeep r.domain hdeep
  · simp only [if_neg hdeep]
    rw [← Nat.zero_add E.levelCost]
    refine (affords_enter r.domain).bind (v := 0) (b := 0) fun _ => ?_
    show E.Affords r.depth E.levelCost 0 (if _ then _ else _)
    split
    · exact affords_pure _
    · rw [levelCost, show 2 * E.options.maxPtrNames + 4 = 1 + (2 * E.options.maxPtrNames + 3) by omega]
      refine (policyAt_affords r.domain).bind (v := 0) (b := 0) fun policy => ?_
      cases policy with
      | none => exact affords_pure _
      | some p => exact decide_affords hexplainer hnested rfl p

/-! ## Evaluations -/

/-- What stands for a level that no lookup is left for. -/
lemma exhausted_affords {q v : Nat} :
    E.Affords depth q v (do throw (.lookupLimit (← get).budget.maxLookups) : Check σ Evaluation) :=
  fun s => affords_throw (f := .lookupLimit s.budget.maxLookups) nofun nofun s

/-- A level costs only what it costs by itself, however deep levels may nest. -/
lemma nest_affords (hexplainer : ∀ p r, E.Asks (2 * E.options.maxPtrNames + 3) (explainer p r)) (n : Nat)
    (r : Request) : E.Affords r.depth E.levelCost 0 (E.nest explainer n r) := by
  -- no charge is left for levels below the last one, so they fail for the limit at no cost
  induction n generalizing r with
  | zero => exact level_affords hexplainer (fun _ _ => exhausted_affords) rfl
  | succ n ih => exact level_affords hexplainer (fun r' hr' => hr' ▸ ih r') rfl

/-- The evaluation of a request costs one level beyond what it earns. -/
theorem evaluate_affords (r : Request) : E.Affords r.depth E.levelCost 0 (E.evaluate r) :=
  fun s => nest_affords explain_asks s.budget.remaining r s

end SenderPolicy.Engine
