import SenderPolicy.Checking
import SenderPolicy.Proofs.Explanations
import SenderPolicy.Proofs.LetterCase

/-!
# Names in other letters

The verdict on a client does not depend on the letter case in which its sender, the domain and its HELO identity are
written (`evaluate_eq_of_sameLetters`), if the resolver does not care about it either. Targets lead to the same domains,
so only the domain of a request itself is ever asked for in its own letters.

What does depend on letter case is the wording of failures, and explanations. So two checks are `Similar` if they end
with related values or with failures of one verdict, over sessions of which only the budget is compared.
-/

namespace SenderPolicy

variable {σ α β γ δ : Type}

/-- The requests are for the same client, and their texts differ in letter case at most. -/
structure Request.SameLetters (r₁ r₂ : Request) : Prop where
  sender : Text.lower r₁.sender = Text.lower r₂.sender
  domain : Text.lower r₁.domain = Text.lower r₂.domain
  client : r₁.client = r₂.client
  helo : Text.lower r₁.helo = Text.lower r₂.helo
  depth : r₁.depth = r₂.depth

/-- The answers of the resolver never change, and are the same for a name in other letters. -/
structure Resolver.IgnoresCase (R : Resolver σ) : Prop where
  steady : R.IsSteady
  txt : ∀ {m n : Text} (state : σ), Text.lower m = Text.lower n → (R.ask (.txt m) state).1 = (R.ask (.txt n) state).1
  a : ∀ {m n : Text} (state : σ), Text.lower m = Text.lower n → (R.ask (.a m) state).1 = (R.ask (.a n) state).1
  aaaa : ∀ {m n : Text} (state : σ), Text.lower m = Text.lower n → (R.ask (.aaaa m) state).1 = (R.ask (.aaaa n) state).1
  mx : ∀ {m n : Text} (state : σ), Text.lower m = Text.lower n → (R.ask (.mx m) state).1 = (R.ask (.mx n) state).1

/-! ## Similar checks -/

/-- Ends of two checks with the same budget: related values, or failures with the same verdict. -/
inductive SimilarEnds (V : α → β → Prop) : Except Failure α × Session σ → Except Failure β × Session σ → Prop where
  | ok {a b s₁ s₂} : V a b → s₁.budget = s₂.budget → SimilarEnds V (.ok a, s₁) (.ok b, s₂)
  | error {f g s₁ s₂} : f.verdict = g.verdict → s₁.budget = s₂.budget → SimilarEnds V (.error f, s₁) (.error g, s₂)

/-- Two checks that end alike if they start with the same budget. -/
def Check.Similar (V : α → β → Prop) (c₁ : Check σ α) (c₂ : Check σ β) : Prop :=
  ∀ s₁ s₂, s₁.budget = s₂.budget → SimilarEnds V (c₁.runFrom s₁) (c₂.runFrom s₂)

namespace Check.Similar

variable {V : α → β → Prop} {W : γ → δ → Prop}

/-- Related values are similar. -/
lemma pure {a : α} {b : β} (h : V a b) : Similar V (Pure.pure a : Check σ α) (Pure.pure b : Check σ β) :=
  fun _ _ hs => .ok h hs

/-- Failures with one verdict are similar. -/
lemma throw {f g : Failure} (h : f.verdict = g.verdict) :
    Similar V (MonadExcept.throw f : Check σ α) (MonadExcept.throw g : Check σ β) :=
  fun _ _ hs => .error h hs

/-- Checks that match are similar: they have the same failures, not only the same verdict on them. -/
lemma of_matches {c₁ : Check σ α} {c₂ : Check σ β} (h : Check.Matches (.sameBudget σ σ) V c₁ c₂) : Similar V c₁ c₂ := by
  intro s₁ s₂ hs
  have hends := h.together hs
  generalize c₁.runFrom s₁ = end₁ at hends ⊢
  generalize c₂.runFrom s₂ = end₂ at hends ⊢
  cases hends with
  | ok hab hs' => exact .ok hab hs'
  | error hs' => exact .error rfl hs'
  | parted hs' => exact hs'.elim

/-- Probes that match are similar checks. -/
lemma lift {p₁ : Probe σ α} {p₂ : Probe σ β} (hp : Probe.Matches (.sameBudget σ σ) V p₁ p₂) :
    Similar V (liftM p₁ : Check σ α) (liftM p₂ : Check σ β) :=
  of_matches (.lift hp)

/-- Similar checks may be compared by a weaker relation. -/
lemma mono {V' : α → β → Prop} {c₁ : Check σ α} {c₂ : Check σ β} (hc : Similar V c₁ c₂)
    (hV : ∀ {a b}, V a b → V' a b) : Similar V' c₁ c₂ := by
  intro s₁ s₂ hs
  have hends := hc s₁ s₂ hs
  generalize c₁.runFrom s₁ = end₁ at hends ⊢
  generalize c₂.runFrom s₂ = end₂ at hends ⊢
  cases hends with
  | ok hab hs' => exact .ok (hV hab) hs'
  | error hverdict hs' => exact .error hverdict hs'

/-- Checks in two parts are similar if the second parts are for related values. -/
lemma bindRel {c₁ : Check σ α} {c₂ : Check σ β} {k₁ : α → Check σ γ} {k₂ : β → Check σ δ} (hc : Similar V c₁ c₂)
    (hk : ∀ {a b}, V a b → Similar W (k₁ a) (k₂ b)) : Similar W (c₁ >>= k₁) (c₂ >>= k₂) := by
  intro s₁ s₂ hs
  have hends := hc s₁ s₂ hs
  rcases hrun₁ : c₁.runFrom s₁ with ⟨x, s₁'⟩
  rcases hrun₂ : c₂.runFrom s₂ with ⟨y, s₂'⟩
  rw [hrun₁, hrun₂] at hends
  cases hends with
  | ok hab hs' =>
    rw [runFrom_bind_ok hrun₁, runFrom_bind_ok hrun₂]
    exact hk hab s₁' s₂' hs'
  | error hverdict hs' =>
    rw [runFrom_bind_error hrun₁, runFrom_bind_error hrun₂]
    exact .error hverdict hs'

/-- Checks in two parts are similar if they go on alike from equal values. -/
lemma bind {c₁ c₂ : Check σ α} {k₁ : α → Check σ γ} {k₂ : α → Check σ δ} (hc : Similar Eq c₁ c₂)
    (hk : ∀ a, Similar W (k₁ a) (k₂ a)) : Similar W (c₁ >>= k₁) (c₂ >>= k₂) :=
  hc.bindRel fun {a _} hab => hab ▸ hk a

end Check.Similar

namespace Engine

open Check (Similar)

variable {E : Engine σ}

/-! ## Targets -/

/-- The transactions of such requests differ in letter case at most. -/
lemma transaction_alike {r₁ r₂ : Request} (hr : r₁.SameLetters r₂) (name : Option Text) :
    (E.transaction r₁ name).Alike (E.transaction r₂ name) := by
  have hmailbox : Mailbox.ofSender (Text.lower r₁.sender) = Mailbox.ofSender (Text.lower r₂.sender) := by rw [hr.sender]
  rw [Mailbox.ofSender_lower, Mailbox.ofSender_lower, Mailbox.mk.injEq] at hmailbox
  intro letter
  cases letter with
  | sender => exact hr.sender
  | localPart => exact hmailbox.1
  | senderDomain => exact hmailbox.2
  | domain => exact hr.domain
  | address => exact congrArg (fun client => Text.lower (Transaction.dotted client)) hr.client
  | validatedName => rfl
  | addressFamily => exact congrArg (fun client => Text.lower (Transaction.family client)) hr.client
  | helo => exact hr.helo
  | clientAddress => exact congrArg (fun client => Text.lower (Address.text client)) hr.client
  | receiver => rfl
  | time => rfl

/-- The requests for one domain below them differ in letter case at most, too. -/
lemma descend_sameLetters {r₁ r₂ : Request} (hr : r₁.SameLetters r₂) (domain : Text) :
    (r₁.descend domain).SameLetters (r₂.descend domain) :=
  ⟨hr.sender, rfl, hr.client, hr.helo, congrArg (· + 1) hr.depth⟩

section

variable (hE : E.resolver.IgnoresCase) {r₁ r₂ : Request} (hr : r₁.SameLetters r₂)

include hE hr

/-- The same name is validated. -/
lemma validatedName_matches : Probe.Matches (.sameBudget σ σ) Eq (E.validatedName r₁) (E.validatedName r₂) := by
  have hagree := agreeUpToOrder_of_isSteady hE.steady
  rw [validatedName, validatedName, hr.client]
  refine (hagree.reverseNames r₂.client).bind fun names => (hagree.confirmed r₂.client _).bind fun kept => ?_
  exact .pure (preferred_eq hr.domain kept)

/-- A target leads to the same domain, or is malformed, in whatever letters the request is written. -/
lemma expandDomain_matches (target : Text) :
    Probe.Matches (.sameBudget σ σ) Eq (E.expandDomain r₁ target) (E.expandDomain r₂ target) := by
  have hdomain : ∀ name, (Template.expand .domain (E.transaction r₁ name) target).map domainOfExpansion =
      (Template.expand .domain (E.transaction r₂ name) target).map domainOfExpansion :=
    fun name => expand_domain_eq (transaction_alike hr name) target
  rw [expandDomain, expandDomain, expand, expand]
  split
  · exact (validatedName_matches hE hr).bind fun name => .pure (hdomain name)
  · exact (Probe.Matches.pure rfl).bind fun name => .pure (hdomain name)

/-- A target leads to the same domain, or fails with the same verdict. -/
lemma targetDomain_similar (target : Text) : Similar Eq (E.targetDomain r₁ target) (E.targetDomain r₂ target) := by
  refine (Similar.lift (expandDomain_matches hE hr target)).bind fun domain => ?_
  cases domain with
  | ok domain => exact .pure rfl
  | error e => exact .throw rfl

/-- The domain that a mechanism is about may be that of the request, in its own letters. -/
lemma domainOrOwn_similar (target : Option Text) :
    Similar (fun m n => Text.lower m = Text.lower n) (E.domainOrOwn r₁ target) (E.domainOrOwn r₂ target) := by
  cases target with
  | some target => exact (targetDomain_similar hE hr target).mono (congrArg Text.lower)
  | none => exact .pure hr.domain

end

/-! ## Queries -/

/-- Probes of one query each have related answers if the queries do, in any two states. -/
lemma ask_matches {q₁ q₂ : Query} {V : Answer q₁ → Answer q₂ → Prop}
    (hV : ∀ a b, V (E.resolver.ask q₁ a).1 (E.resolver.ask q₂ b).1) :
    Probe.Matches (.sameBudget σ σ) V (Probe.ask E.resolver q₁) (Probe.ask E.resolver q₂) :=
  ⟨fun _ => hV _ _, fun h => h, False.elim⟩

section

variable (hE : E.resolver.IgnoresCase) {m n : Text} (hmn : Text.lower m = Text.lower n)

include hE hmn

/-- The same policy is found at a domain in other letters. -/
lemma policyAt_similar : Similar Eq (E.policyAt m) (E.policyAt n) := by
  have htxt : ∀ a b, (E.resolver.ask (.txt m) a).1 = (E.resolver.ask (.txt n) b).1 :=
    fun a b => (hE.steady (.txt m) a b).trans (hE.txt b hmn)
  have hask : Probe.Matches (.sameBudget σ σ) Eq (Probe.ask E.resolver (.txt m)) (Probe.ask E.resolver (.txt n)) :=
    ask_matches htxt
  have hrecords : ∀ answer, @Answer.records (.txt m) answer = @Answer.records (.txt n) answer := by
    rintro ((_ | _ | _ | _ | _) | _) <;> rfl
  refine (Similar.lift hask).bind fun answer => ?_
  rw [hrecords]
  split
  · exact .throw rfl
  · split
    · exact .pure rfl
    · exact .throw rfl

/-- A name has the same addresses in other letters. -/
lemma addresses_matches (client : Address) :
    Probe.Matches (.sameBudget σ σ) Eq (E.addresses m client) (E.addresses n client) := by
  cases client with
  | v4 a =>
    have ha : ∀ a b, (E.resolver.ask (.a m) a).1 = (E.resolver.ask (.a n) b).1 :=
      fun a b => (hE.steady (.a m) a b).trans (hE.a b hmn)
    have hask : Probe.Matches (.sameBudget σ σ) Eq (Probe.ask E.resolver (.a m)) (Probe.ask E.resolver (.a n)) :=
      ask_matches ha
    exact hask.bind fun answer => .pure rfl
  | v6 a =>
    have haaaa : ∀ a b, (E.resolver.ask (.aaaa m) a).1 = (E.resolver.ask (.aaaa n) b).1 :=
      fun a b => (hE.steady (.aaaa m) a b).trans (hE.aaaa b hmn)
    have hask : Probe.Matches (.sameBudget σ σ) Eq (Probe.ask E.resolver (.aaaa m)) (Probe.ask E.resolver (.aaaa n)) :=
      ask_matches haaaa
    exact hask.bind fun answer => .pure rfl

/-- A name has the same addresses in other letters, or counts as empty in any. -/
lemma countedAddresses_similar (client : Address) :
    Similar Eq (E.countedAddresses m client) (E.countedAddresses n client) := by
  have hagree := agreeUpToOrder_of_isSteady hE.steady
  have hvoid : ∀ found : List Address, Similar Eq (Check.recordVoid >>= fun _ => pure found : Check σ (List Address))
      (Check.recordVoid >>= fun _ => pure found) := fun _ => .of_matches (hagree.recordVoid_bind rfl)
  refine (Similar.lift (addresses_matches hE hmn client)).bind fun answer => ?_
  split
  · exact hvoid _
  · exact hvoid _
  · exact .pure rfl
  · exact .throw rfl

/-- A client is near a name in any letters. -/
lemma nearName_similar (lengths : Lengths) (client : Address) :
    Similar Eq (E.nearName m lengths client) (E.nearName n lengths client) :=
  (countedAddresses_similar hE hmn client).bind fun _ => .pure rfl

/-- Exchanges have names of their own, so only the name they are listed at matters. -/
lemma nearAnyExchange_similar (lengths : Lengths) (client : Address) :
    Similar Eq (E.nearAnyExchange m lengths client) (E.nearAnyExchange n lengths client) := by
  have hagree := agreeUpToOrder_of_isSteady hE.steady
  have hmx : ∀ a b, (E.resolver.ask (.mx m) a).1 = (E.resolver.ask (.mx n) b).1 :=
    fun a b => (hE.steady (.mx m) a b).trans (hE.mx b hmn)
  have hask : Probe.Matches (.sameBudget σ σ) Eq (Probe.ask E.resolver (.mx m)) (Probe.ask E.resolver (.mx n)) :=
    ask_matches hmx
  have hrecords : ∀ answer, @Answer.records (.mx m) answer = @Answer.records (.mx n) answer := by
    rintro ((_ | _ | _ | _ | _) | _) <;> rfl
  refine (Similar.lift hask).bind fun answer => ?_
  rw [hrecords]
  split
  · exact .throw rfl
  · exact .of_matches (hagree.recordVoid_bind rfl)
  · split
    · exact (Similar.throw (f := .tooManyExchanges m _ _) (g := .tooManyExchanges n _ _) rfl).bind fun _ =>
        .of_matches (hagree.nearExchange lengths client _)
    · exact .of_matches (hagree.nearExchange lengths client _)

/-- A name of the client lies below a domain in any letters. -/
lemma namedBelow_similar (client : Address) : Similar Eq (E.namedBelow m client) (E.namedBelow n client) := by
  have hagree := agreeUpToOrder_of_isSteady hE.steady
  have hbelow : (DomainName.isSameOrBelow · m) = (DomainName.isSameOrBelow · n) :=
    funext (DomainName.isSameOrBelow_eq hmn)
  rw [namedBelow, namedBelow, hbelow]
  exact .of_matches (hagree.namedBelow n client)

end

/-! ## Levels -/

/-- The evaluations agree but for their explanations. -/
def SameVerdict (e₁ e₂ : Evaluation) : Prop :=
  e₁.verdict = e₂.verdict

section

variable (hE : E.resolver.IgnoresCase) {r₁ r₂ : Request} (hr : r₁.SameLetters r₂)
  {nested : Request → Check σ Evaluation}
  (hnested : ∀ {r₁ r₂ : Request}, r₁.SameLetters r₂ →
    Similar SameVerdict (nested r₁) (nested r₂))

include hE hr hnested

omit hE in
/-- An inclusion passes alike if the levels below are similar. -/
lemma passedBy_similar (domain : Text) : Similar Eq (passedBy nested r₁ domain) (passedBy nested r₂ domain) := by
  refine (hnested (descend_sameLetters hr domain)).bindRel fun {e₁ e₂} he => ?_
  rw [he]
  split
  · exact .pure rfl
  · exact .throw rfl
  · exact .pure rfl

/-- A mechanism matches alike. -/
lemma matchesClient_similar (m : Mechanism) :
    Similar Eq (E.matchesClient nested r₁ m) (E.matchesClient nested r₂ m) := by
  have hcharge : Similar Eq (Check.charge : Check σ Unit) Check.charge :=
    .of_matches (agreeUpToOrder_of_isSteady hE.steady).charge
  cases m with
  | all => exact .pure rfl
  | includes target =>
    exact hcharge.bind fun _ => (targetDomain_similar hE hr target).bind fun domain =>
      passedBy_similar hr hnested domain
  | a target lengths =>
    -- without a target the domain is that of the request, in its own letters, so no equality will do
    rw [matchesClient, matchesClient, hr.client]
    exact hcharge.bind fun _ => (domainOrOwn_similar hE hr target).bindRel fun hmn =>
      nearName_similar hE hmn lengths r₂.client
  | mx target lengths =>
    rw [matchesClient, matchesClient, hr.client]
    exact hcharge.bind fun _ => (domainOrOwn_similar hE hr target).bindRel fun hmn =>
      nearAnyExchange_similar hE hmn lengths r₂.client
  | ptr target =>
    rw [matchesClient, matchesClient, hr.client]
    exact hcharge.bind fun _ => (domainOrOwn_similar hE hr target).bindRel fun hmn =>
      namedBelow_similar hE hmn r₂.client
  | ip4 network length =>
    rw [matchesClient, matchesClient, hr.client]
    exact .pure rfl
  | ip6 network length =>
    rw [matchesClient, matchesClient, hr.client]
    exact .pure rfl
  | existing target =>
    exact hcharge.bind fun _ => (targetDomain_similar hE hr target).bind fun domain =>
      .of_matches ((agreeUpToOrder_of_isSteady hE.steady).hasAddress domain)

/-- The same directive is the first to match, by induction on the directives. -/
lemma firstMatch_similar (ds : List Directive) :
    Similar Eq (E.firstMatch nested r₁ ds) (E.firstMatch nested r₂ ds) := by
  induction ds with
  | nil => exact .pure rfl
  | cons d ds ih =>
    refine (matchesClient_similar hE hr hnested d.mechanism).bind fun found => ?_
    cases found with
    | true => exact .pure rfl
    | false => exact ih

/-- A redirection leads to similar evaluations. -/
lemma redirected_similar (target : Text) :
    Similar SameVerdict (E.redirected nested r₁ target) (E.redirected nested r₂ target) := by
  have hcharge : Similar Eq (Check.charge : Check σ Unit) Check.charge :=
    .of_matches (agreeUpToOrder_of_isSteady hE.steady).charge
  refine hcharge.bind fun _ => (targetDomain_similar hE hr target).bind fun domain => ?_
  refine (hnested (descend_sameLetters hr domain)).bindRel fun {e₁ e₂} he => ?_
  rw [he]
  split
  · exact (Similar.throw (f := .redirectWithoutPolicy domain) rfl).bind fun _ => .pure he
  · exact .pure he

/-- A policy decides alike: a failure asks for its explanation, which may be worded otherwise. -/
lemma decide_similar (p : Policy) :
    Similar SameVerdict (E.decide E.explain nested r₁ p) (E.decide E.explain nested r₂ p) := by
  refine (firstMatch_similar hE hr hnested p.directives).bind fun found => ?_
  split
  · split
    · -- explanations are compared by nothing but what they cost, which is nothing
      exact (Similar.lift ((explain_asks p r₁).matches_sameBudget (explain_asks p r₂))).bindRel fun _ => .pure rfl
    · exact (Similar.pure rfl).bind fun _ => .pure rfl
  · split
    · exact redirected_similar hE hr hnested _
    · exact .pure rfl

/-- A level ends with the same verdict, in whatever letters its domain is written. -/
lemma level_similar :
    Similar SameVerdict (E.level E.explain nested r₁) (E.level E.explain nested r₂) := by
  have henter : Similar Eq (Check.enter r₁.domain r₁.depth : Check σ Unit) (Check.enter r₂.domain r₂.depth) :=
    fun _ _ hs => .ok rfl hs
  have hvalid : DomainName.isValid r₁.domain = DomainName.isValid r₂.domain := by
    rw [← DomainName.isValid_lower, hr.domain, DomainName.isValid_lower]
  rw [level_eq, level_eq, hr.depth]
  refine (hr.depth ▸ henter).bind fun _ => ?_
  refine (Similar.of_matches ((agreeUpToOrder_of_isSteady hE.steady).admitDepth r₂.depth)).bind fun _ => ?_
  rw [admitted, admitted, hvalid]
  split
  · exact .pure rfl
  · refine (policyAt_similar hE hr.domain).bind fun policy => ?_
    cases policy with
    | none => exact .pure rfl
    | some p => exact decide_similar hE hr hnested p

omit hr hnested in
/-- Levels end with the same verdict in other letters, however deep they may nest. -/
lemma nest_similar (n : Nat) {r₁ r₂ : Request} (hr : r₁.SameLetters r₂) :
    Similar SameVerdict (E.nest E.explain n r₁) (E.nest E.explain n r₂) := by
  induction n generalizing r₁ r₂ with
  | zero =>
    have hC := Correspondence.inseparable_sameBudget E.resolver E.resolver
    exact level_similar hE hr fun _ => .of_matches hC.matches_exhausted
  | succ n ih => exact level_similar hE hr ih

end

/-! ## Evaluations -/

/-- Over answers that do not depend on letter case, requests that differ in it only end with the same verdict, or with
failures of the same verdict, and leave the same counters. -/
theorem evaluate_eq_of_sameLetters (E : Engine σ) (hE : E.resolver.IgnoresCase) {r₁ r₂ : Request}
    (hr : r₁.SameLetters r₂) {s₁ s₂ : Session σ} (hs : s₁.budget = s₂.budget) :
    let end₁ := (E.evaluate r₁).runFrom s₁
    let end₂ := (E.evaluate r₂).runFrom s₂
    (end₁.1.map Evaluation.verdict).mapError Failure.verdict =
        (end₂.1.map Evaluation.verdict).mapError Failure.verdict ∧
      (conclude r₁ end₁.1 end₁.2).verdict = (conclude r₂ end₂.1 end₂.2).verdict ∧
      (conclude r₁ end₁.1 end₁.2).lookups = (conclude r₂ end₂.1 end₂.2).lookups ∧
      (conclude r₁ end₁.1 end₁.2).voids = (conclude r₂ end₂.1 end₂.2).voids := by
  intro end₁ end₂
  have hrun : end₂ = (E.nest E.explain s₁.budget.remaining r₂).runFrom s₂ := by
    rw [hs]
    rfl
  have hends : SimilarEnds SameVerdict end₁ end₂ :=
    hrun ▸ nest_similar hE s₁.budget.remaining hr s₁ s₂ hs
  clear_value end₁ end₂
  cases hends with
  | ok hverdict hbudget =>
    refine ⟨congrArg Except.ok hverdict, hverdict, congrArg Budget.lookups hbudget, congrArg Budget.voids hbudget⟩
  | error hverdict hbudget =>
    refine ⟨congrArg Except.error hverdict, hverdict, congrArg Budget.lookups hbudget, congrArg Budget.voids hbudget⟩

/-- A policy that looks up the sender, its HELO identity and the name of the client, and includes another that asks for
the domain of the sender. -/
def anyLetters : (q : Query) → Answer q
  | .txt name =>
    if Text.sameLetters name "a.example".toList then
      .ok ["v=spf1 exists:%{L1r+}.%{s}.%{h}.example mx include:%{p}.%{o2}.b.example -all exp=%{D}.example".toList]
    else if Text.sameLetters name "mail.a.example.a.example.b.example".toList then
      .ok ["v=spf1 ptr:%{o} -all".toList]
    else .error .noSuchDomain
  | .a name => if Text.sameLetters name "mail.a.example".toList then .ok [⟨0xC0000201⟩] else .error .noSuchDomain
  | .mx name => if Text.sameLetters name "a.example".toList then .ok [] else .error .timeout
  | .ptr _ => .ok ["Other.Example".toList, "Mail.A.Example".toList]
  | .aaaa _ => .error .timeout

/-- A sender in capitals passes as it does in small letters. -/
theorem evaluate_eq_of_sameLetters_capitals :
    let E : Engine Nat := ⟨⟨fun q sent => (anyLetters q, sent + 1)⟩, {}, 0⟩
    let small : Request := ⟨"bö+tag@a.example".toList, "a.example".toList, .v4 ⟨0xC0000201⟩, "h.example".toList, 0⟩
    let capital : Request := ⟨"Bö+TAG@A.Example".toList, "A.EXAMPLE".toList, .v4 ⟨0xC0000201⟩, "H.Example".toList, 0⟩
    let s : Session Nat := .start (.fresh 10 2) 0
    let end₁ := (E.evaluate small).runFrom s
    let end₂ := (E.evaluate capital).runFrom s
    E.resolver.IgnoresCase ∧ small.SameLetters capital ∧ end₁.1.map Evaluation.verdict = .ok .pass ∧
      (end₂.1.map Evaluation.verdict).mapError Failure.verdict = .ok .pass ∧
      (conclude capital end₂.1 end₂.2).lookups = 4 ∧ (conclude capital end₂.1 end₂.2).voids = 2 := by
  intro E small capital s end₁ end₂
  have hE : E.resolver.IgnoresCase := by
    refine ⟨fun q a b => rfl, fun state h => ?_, fun state h => ?_, fun state h => rfl, fun state h => ?_⟩
    · simp only [E, anyLetters, Text.sameLetters, h]
      rfl
    · simp only [E, anyLetters, Text.sameLetters, h]
      rfl
    · simp only [E, anyLetters, Text.sameLetters, h]
      rfl
  have hr : small.SameLetters capital := ⟨by decide, by decide, rfl, by decide, rfl⟩
  obtain ⟨hresult, -, hlookups, hvoids⟩ := evaluate_eq_of_sameLetters E hE hr (rfl : s.budget = s.budget)
  have hend : end₁.1.map Evaluation.verdict = .ok .pass ∧ end₁.2.budget = ⟨4, 2, 10, 2⟩ := by decide +kernel
  obtain ⟨hpass, hbudget⟩ := hend
  refine ⟨hE, hr, hpass, ?_, ?_, ?_⟩
  · rw [← hresult, hpass]
    rfl
  · exact hlookups.symm.trans (congrArg Budget.lookups hbudget)
  · exact hvoids.symm.trans (congrArg Budget.voids hbudget)

end Engine

end SenderPolicy
