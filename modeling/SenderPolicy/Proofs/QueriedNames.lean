import SenderPolicy.Checking
import SenderPolicy.Proofs.LetterCase
import SenderPolicy.Proofs.NoPolicy

/-!
# Names that are asked for

Every query of an evaluation is accounted for (`evaluate_accounted`). Texts are asked for at valid names only, so what
is included, handed over to or looked up for an explanation was checked; reverse names are those of the client. Hosts
are asked for at the domain of a level, which is valid, at a name that the resolver told before, or at what a target
expands to. Nothing checks that last name: it has small letters, no dot at its end, and fits unless it is a single
label, but nothing keeps its labels from being empty, too long, or from holding blanks (`isValid_domainOfExpansion_iff`).
-/

namespace SenderPolicy

variable {σ α β : Type}

/-! ## Names that targets expand to -/

namespace DomainName

variable {name : Text}

/-- A name is cut at its front. -/
lemma truncate_suffix (t : Text) : truncate t <:+ t := by
  fun_induction truncate with
  | case1 => exact List.suffix_rfl
  | case2 => exact List.suffix_rfl
  | case3 name _ c rest hcut ih =>
    have hrest : c :: rest <:+ name := hcut ▸ List.dropWhile_suffix _
    exact ih.trans ((List.suffix_cons c rest).trans hrest)

/-- A name is cut until it fits, or until it is a single label. -/
lemma truncate_fits (t : Text) : Text.byteLength (truncate t) ≤ maxLength ∨ '.' ∉ truncate t := by
  fun_induction truncate with
  | case1 name hfits => exact .inl hfits
  | case2 name _ hcut =>
    rw [List.dropWhile_eq_nil_iff] at hcut
    exact .inr fun hdot => by simpa using hcut '.' hdot
  | case3 _ _ _ _ _ ih => exact ih

/-- Where the length and the end of a name are no fault, its labels decide. -/
lemma isValid_iff (hlast : name.getLast? ≠ some '.') (hfits : Text.byteLength name ≤ maxLength ∨ '.' ∉ name) :
    isValid name = true ↔ '.' ∈ name ∧ ∀ label ∈ labels name, labelFault? label = none := by
  have hdrop : Text.dropDot name = name := if_neg hlast
  rw [isValid, Option.isNone_iff_eq_none]
  simp only [fault?, hdrop]
  split
  · next hempty =>
    rw [List.isEmpty_iff.mp hempty]
    exact iff_of_false (Option.some_ne_none _) fun h => by cases h.1
  · split
    · next hlong => exact iff_of_false (Option.some_ne_none _) fun h => (hfits.resolve_left (Nat.not_le.mpr hlong)) h.1
    · split
      · next hdot => exact iff_of_false (Option.some_ne_none _) fun h => by simp [h.1] at hdot
      · next hdot =>
        have hdot : '.' ∈ name := by simpa using hdot
        rw [List.findSome?_eq_none_iff, and_iff_right hdot]

end DomainName

namespace Engine

/-- The domain of an expansion is the text in small letters, without dots at its end, cut until it fits. -/
lemma domainOfExpansion_eq (t : Text) :
    domainOfExpansion t = DomainName.truncate (Text.dropDots (Text.lower t)) := by
  rw [domainOfExpansion, ← DomainName.truncate_lower, Text.lower_dropDots]

/-- The domain of an expansion does not end in a dot. -/
lemma getLast?_domainOfExpansion (t : Text) : (domainOfExpansion t).getLast? ≠ some '.' := by
  rw [domainOfExpansion_eq]
  intro hlast
  obtain ⟨front, hfront⟩ := DomainName.truncate_suffix (Text.dropDots (Text.lower t))
  have hne : DomainName.truncate (Text.dropDots (Text.lower t)) ≠ [] := by
    intro hnil
    rw [hnil] at hlast
    cases hlast
  refine Text.getLast?_dropDots_ne (Text.lower t) ?_
  rw [← hfront, List.getLast?_append_of_ne_nil _ hne, hlast]

/-- What a target expands to is in small letters, and valid unless it is a single label or a label of it is faulty. -/
theorem isValid_domainOfExpansion_iff (t : Text) :
    Text.lower (domainOfExpansion t) = domainOfExpansion t ∧
      (DomainName.isValid (domainOfExpansion t) = true ↔ '.' ∈ domainOfExpansion t ∧
        ∀ label ∈ DomainName.labels (domainOfExpansion t), DomainName.labelFault? label = none) := by
  refine ⟨Text.lower_lower _, DomainName.isValid_iff (getLast?_domainOfExpansion t) ?_⟩
  rw [domainOfExpansion_eq]
  exact DomainName.truncate_fits _

end Engine

/-! ## What was published and told -/

/-- The names that an answer tells: those of mail exchanges, or reverse names. -/
def Answer.names : {q : Query} → Answer q → List Text
  | .mx _, .ok exchanges => exchanges.map Exchange.name
  | .ptr _, .ok names => names
  | _, _ => []

/-- The names that a reverse lookup tells are its records, and none if it fails. -/
lemma Answer.names_eq {client : Address} (answer : Answer (.ptr client)) :
    answer.names = answer.records.toOption.getD [] := by
  rcases answer with ((_ | _ | _ | _ | _) | names) <;> rfl

/-- The target of a mechanism that asks for mail exchanges there. -/
def Mechanism.exchangeTarget? : Mechanism → Option Text
  | .mx target _ => target
  | _ => none

/-- The target of a mechanism that asks for addresses there. -/
def Mechanism.addressTarget? : Mechanism → Option Text
  | .a target _ => target
  | .existing target => some target
  | _ => none

/-- What is known of the answers that the resolver gave. -/
abbrev Knowledge : Type :=
  (q : Query) → Answer q → Prop

namespace Knowledge

/-- An answer from which the policy of a domain was read is known. -/
def Publishes (known : Knowledge) (domain : Text) (p : Policy) : Prop :=
  ∃ answer, known (.txt domain) answer ∧ answer.policy = .ok (some p)

/-- An answer that tells the name is known. -/
def Tells (known : Knowledge) (name : Text) : Prop :=
  ∃ q answer, known q answer ∧ name ∈ answer.names

/-- What is known after one more answer. -/
def learn (known : Knowledge) (q : Query) (answer : Answer q) : Knowledge := fun q' answer' =>
  known q' answer' ∨ (⟨q', answer'⟩ : (q : Query) × Answer q) = ⟨q, answer⟩

/-- What is known after the events since a session. -/
def after (known : Knowledge) (R : Resolver σ) (s : Session σ) (t : List Event) : Knowledge := fun q answer =>
  known q answer ∨ s.Exchanged R t q answer

end Knowledge

namespace Engine

/-! ## Queries that are accounted for -/

section

variable (E : Engine σ) (r : Request)

/-- The target expands to the name for some confirmed name of the client, or for none. -/
def ExpandsTo (target name : Text) : Prop :=
  ∃ validated, (Template.expand .domain (E.transaction r validated) target).map domainOfExpansion = .ok name

/-- The name is the domain of a policy, and valid, or it is what a target of a policy expands to at its level. -/
def Named (known : Knowledge) (target? : Mechanism → Option Text) (name : Text) : Prop :=
  (DomainName.isValid name = true ∧ ∃ p, known.Publishes name p) ∨
    ∃ domain depth p d target, known.Publishes domain p ∧ d ∈ p.directives ∧ target? d.mechanism = some target ∧
      E.ExpandsTo ⟨r.sender, domain, r.client, r.helo, depth⟩ target name

/-- There is a reason for the query: it asks for texts at a valid name, for the reverse names of the client, for hosts
that a policy names, or for addresses at a name that was told. -/
def Accounted (known : Knowledge) : Query → Prop
  | .txt name => DomainName.isValid name = true
  | .mx name => E.Named r known Mechanism.exchangeTarget? name
  | .a name | .aaaa name => E.Named r known Mechanism.addressTarget? name ∨ known.Tells name
  | .ptr client => client = r.client

/-- From every session, the check sends only queries that are accounted for by what is known already or was answered
since; and it ends with a value as it should be, if it does not fail. -/
def Accounts (known : Knowledge) (V : α → Prop) (c : Check σ α) : Prop :=
  ∀ s, ∃ t, (c.runFrom s).2 = s.replay E.resolver t ∧ (∀ {a}, (c.runFrom s).1 = .ok a → V a) ∧
    ∀ {q u}, .asked q :: u <:+ t → E.Accounted r (known.after E.resolver s u) q

end

variable {E : Engine σ} {r : Request} {known known' : Knowledge} {V V' : α → Prop} {W : β → Prop} {q : Query}
  {name : Text}

section

variable (hknown : ∀ {q answer}, known q answer → known' q answer)

include hknown

/-- A name stays accounted for as more is known. -/
lemma Named.mono {target? : Mechanism → Option Text} (h : E.Named r known target? name) :
    E.Named r known' target? name := by
  have hpublishes : ∀ {domain p}, known.Publishes domain p → known'.Publishes domain p :=
    fun ⟨answer, hanswer, hp⟩ => ⟨answer, hknown hanswer, hp⟩
  rcases h with ⟨hvalid, p, hp⟩ | ⟨domain, depth, p, d, target, hp, hrest⟩
  · exact .inl ⟨hvalid, p, hpublishes hp⟩
  · exact .inr ⟨domain, depth, p, d, target, hpublishes hp, hrest⟩

/-- A query stays accounted for as more is known. -/
lemma Accounted.mono (h : E.Accounted r known q) : E.Accounted r known' q := by
  cases q with
  | txt name => exact h
  | mx name => exact Named.mono hknown h
  | a name | aaaa name =>
    exact h.imp (Named.mono hknown) fun ⟨q, answer, hanswer, hname⟩ => ⟨q, answer, hknown hanswer, hname⟩
  | ptr client => exact h

end

/-- Where nothing is asked, nothing has to be accounted for. -/
lemma accounts_of_no_query {c : Check σ α}
    (h : ∀ s, ∃ t, (c.runFrom s).2 = s.replay E.resolver t ∧ (∀ {a}, (c.runFrom s).1 = .ok a → V a) ∧
      ∀ q, .asked q ∉ t) : E.Accounts r known V c := by
  intro s
  obtain ⟨t, hs, hvalue, hnone⟩ := h s
  refine ⟨t, hs, hvalue, fun {q u} hu => ?_⟩
  have hmem : Event.asked q ∈ t := hu.mem List.mem_cons_self
  exact absurd hmem (hnone q)

/-- A value is given without a query. -/
lemma accounts_pure {a : α} (h : V a) : E.Accounts r known V (pure a : Check σ α) :=
  accounts_of_no_query fun _ => ⟨[], rfl, fun e => Except.ok.inj e ▸ h, by simp⟩

/-- A failure asks for nothing. -/
lemma accounts_throw (f : Failure) : E.Accounts r known V (throw f : Check σ α) :=
  accounts_of_no_query fun _ => ⟨[], rfl, nofun, by simp⟩

/-- Entering a level asks for nothing. -/
lemma accounts_enter (domain : Text) (depth : Nat) : E.Accounts r known (fun _ => True) (Check.enter domain depth) :=
  accounts_of_no_query fun _ => ⟨[.entered domain depth], rfl, fun _ => trivial, by simp⟩

/-- A charge asks for nothing. -/
lemma accounts_charge : E.Accounts r known (fun _ => True) Check.charge := by
  refine accounts_of_no_query fun s => ?_
  rw [Session.runFrom_charge E.resolver]
  split
  · exact ⟨[.charged], rfl, fun _ => trivial, by simp⟩
  · exact ⟨[], rfl, nofun, by simp⟩

/-- Recording a void lookup asks for nothing. -/
lemma accounts_recordVoid : E.Accounts r known (fun _ => True) Check.recordVoid := by
  refine accounts_of_no_query fun s => ⟨[.void], ?_, fun _ => trivial, by simp⟩
  rw [Session.runFrom_recordVoid E.resolver]
  split
  · rfl
  · rfl

namespace Accounts

/-- Less may be said of the value that a check ends with. -/
lemma mono {c : Check σ α} (hc : E.Accounts r known V c) (hV : ∀ a, V a → V' a) : E.Accounts r known V' c := by
  intro s
  obtain ⟨t, hs, hvalue, hqueries⟩ := hc s
  exact ⟨t, hs, fun e => hV _ (hvalue e), hqueries⟩

/-- What the first check was answered is known in the second. -/
lemma bind {c : Check σ α} {k : α → Check σ β} (hc : E.Accounts r known V c)
    (hk : ∀ a, V a → E.Accounts r known W (k a)) : E.Accounts r known W (c >>= k) := by
  intro s
  obtain ⟨t, hs, hvalue, hqueries⟩ := hc s
  rcases hrun : c.runFrom s with ⟨x, s₁⟩
  rw [hrun] at hs hvalue
  cases x with
  | error f =>
    rw [Check.runFrom_bind_error hrun]
    exact ⟨t, hs, nofun, hqueries⟩
  | ok a =>
    rw [Check.runFrom_bind_ok hrun]
    obtain ⟨t', hs', hvalue', hqueries'⟩ := hk a (hvalue rfl) s₁
    have hs : s₁ = s.replay E.resolver t := hs
    refine ⟨t' ++ t, by rw [hs', hs, Session.replay_append], hvalue', fun hu => ?_⟩
    rcases cons_suffix_append_cases hu with hfirst | ⟨w, rfl, hsecond⟩
    · exact hqueries hfirst
    · refine (hqueries' hsecond).mono fun h => h.imp_right fun h => ?_
      rw [hs] at h
      exact h.append_right

/-- An answer is known from then on. -/
lemma ask_bind {k : Answer q → Check σ β} (hq : E.Accounted r known q)
    (hk : ∀ answer : Answer q, E.Accounts r (known.learn q answer) W (k answer)) :
    E.Accounts r known W (liftM (Probe.ask E.resolver q) >>= k) := by
  intro s
  rw [Check.runFrom_bind_ok (Check.runFrom_lift _ s), Session.runFrom_ask]
  obtain ⟨t, hs, hvalue, hqueries⟩ := hk (E.resolver.ask q s.resolver).1 (s.after E.resolver (.asked q))
  refine ⟨t ++ [.asked q], by rw [hs, Session.replay_append]; rfl, hvalue, fun hu => ?_⟩
  rcases cons_suffix_append_cases hu with hfirst | ⟨w, rfl, hsecond⟩
  · rcases List.suffix_cons_iff.mp hfirst with heq | hnil
    · obtain ⟨hevent, rfl⟩ := List.cons.inj heq
      obtain rfl := Event.asked.inj hevent
      exact hq.mono .inl
    · cases List.suffix_nil.mp hnil
  · refine (hqueries hsecond).mono fun {q' answer'} h => ?_
    rcases h with (h | h) | h
    · exact .inl h
    · cases h
      exact .inr (Session.Exchanged.append_left (t := [.asked q]) ⟨[], [], rfl, rfl⟩ w)
    · exact .inr (Session.Exchanged.append_right (t := [.asked q]) h)

end Accounts

/-- A query that is accounted for may be sent. -/
lemma accounts_ask (hq : E.Accounted r known q) :
    E.Accounts r known (fun _ => True) (liftM (Probe.ask E.resolver q) : Check σ (Answer q)) :=
  .ask_bind (k := pure) hq fun _ => accounts_pure trivial

/-- A probe in two parts is a check in two parts. -/
lemma liftM_bind (p : Probe σ α) (k : α → Probe σ β) :
    (liftM (p >>= k) : Check σ β) = liftM p >>= fun a => liftM (k a) := rfl

/-! ## Probes -/

/-- Addresses are asked for at a name that is named or told, whatever is done with them. -/
lemma addresses_bind {client : Address} {k : Except DnsError (List Address) → Check σ β}
    (hname : E.Named r known Mechanism.addressTarget? name ∨ known.Tells name)
    (hk : ∀ answer, E.Accounts r known W (k answer)) : E.Accounts r known W (liftM (E.addresses name client) >>= k) := by
  refine Accounts.bind (V := fun _ => True) ?_ fun answer _ => hk answer
  cases client with
  | v4 a => exact (accounts_ask (q := .a name) hname).bind fun _ _ => accounts_pure trivial
  | v6 a => exact (accounts_ask (q := .aaaa name) hname).bind fun _ _ => accounts_pure trivial

/-- A name that was told is confirmed by its addresses. -/
lemma confirms_accounts (client : Address) (hname : known.Tells name) :
    E.Accounts r known (fun _ => True) (liftM (E.confirms client name) : Check σ Bool) := by
  rw [confirms, liftM_bind]
  refine addresses_bind (.inr hname) fun answer => ?_
  split
  · exact accounts_pure trivial
  · exact accounts_pure trivial

/-- Names are filtered by a probe that accounts for its queries at each of them. -/
lemma filterAuxM_accounts {p : Text → Probe σ Bool} {names : List Text}
    (hp : ∀ name ∈ names, E.Accounts r known (fun _ => True) (liftM (p name) : Check σ Bool)) (kept : List Text) :
    E.Accounts r known (fun _ => True) (liftM (names.filterAuxM p kept) : Check σ (List Text)) := by
  induction names generalizing kept with
  | nil => exact accounts_pure trivial
  | cons name names ih =>
    rw [List.filterAuxM, liftM_bind]
    refine (hp name List.mem_cons_self).bind fun found _ => ?_
    exact ih (fun name' hname' => hp name' (List.mem_cons_of_mem name hname')) _

/-- Names are confirmed that were told. -/
lemma confirmed_accounts {names : List Text} (client : Address) (hnames : ∀ name ∈ names, known.Tells name) :
    E.Accounts r known (fun _ => True) (liftM (E.confirmed client names) : Check σ (List Text)) := by
  refine (filterAuxM_accounts (fun name hname => ?_) []).bind fun _ _ => accounts_pure trivial
  exact confirms_accounts client (hnames name (List.mem_of_mem_take hname))

/-- Reverse names are the records of one query, if it succeeds. -/
lemma reverseNames_eq (client : Address) :
    E.reverseNames client = Probe.ask E.resolver (.ptr client) >>= fun answer => pure answer.records.toOption := by
  rw [reverseNames]
  congr 1
  funext answer
  cases answer.records with
  | ok names => rfl
  | error e => rfl

/-- Reverse names are told by the answer that lists them. -/
lemma reverseNames_bind {k : Option (List Text) → Check σ β}
    (hk : ∀ known' names, (∀ name ∈ names.getD [], Knowledge.Tells known' name) → E.Accounts r known' W (k names)) :
    E.Accounts r known W (liftM (E.reverseNames r.client) >>= k) := by
  rw [reverseNames_eq, liftM_bind, bind_assoc]
  refine .ask_bind (q := .ptr r.client) rfl fun answer => ?_
  refine hk _ answer.records.toOption fun name hname => ?_
  exact ⟨.ptr r.client, answer, .inr rfl, answer.names_eq ▸ hname⟩

/-- The validated name is looked for among the reverse names of the client, which were told. -/
lemma validatedName_accounts :
    E.Accounts r known (fun _ => True) (liftM (E.validatedName r) : Check σ (Option Text)) := by
  rw [validatedName, liftM_bind]
  refine reverseNames_bind fun known' names hnames => ?_
  exact (confirmed_accounts r.client hnames).bind fun _ _ => accounts_pure trivial

/-- An expansion asks for no more than the validated name. -/
lemma expand_accounts (scope : Scope) (template : Text) :
    E.Accounts r known (fun _ => True) (liftM (E.expand scope r template) : Check σ (Except Template.Error Text)) := by
  rw [expand]
  split
  · rw [liftM_bind]
    exact validatedName_accounts.bind fun _ _ => accounts_pure trivial
  · exact accounts_pure trivial

/-- The domain of a target is what the target expands to for the name that was validated. -/
lemma expandDomain_accounts (target : Text) :
    E.Accounts r known (fun domain => ∀ name, domain = .ok name → E.ExpandsTo r target name)
      (liftM (E.expandDomain r target) : Check σ (Except Template.Error Text)) := by
  intro s
  have hsends : E.Accounts r known (fun _ => True) (liftM (E.expandDomain r target) : Check σ _) :=
    (expand_accounts .domain target).bind fun _ _ => accounts_pure trivial
  obtain ⟨t, hs, -, hqueries⟩ := hsends s
  refine ⟨t, hs, fun {domain} hdomain name hname => ?_, hqueries⟩
  obtain ⟨validated, hrun⟩ := E.exists_expandDomain_eq r target s
  have hvalue : ((E.expandDomain r target).runFrom s).1 = domain := Except.ok.inj hdomain
  exact ⟨validated, by rw [← hrun, hvalue, hname]⟩

/-- An explanation is looked up at a valid name only. -/
lemma explain_accounts (p : Policy) :
    E.Accounts r known (fun _ => True) (liftM (E.explain p r) : Check σ (Option Text)) := by
  rw [explain]
  split
  · next target _ =>
    rw [liftM_bind]
    refine (expandDomain_accounts target).bind fun domain _ => ?_
    split
    · next name _ =>
      split
      · exact accounts_pure trivial
      · next hvalid =>
        have hvalid : DomainName.isValid name = true := by simpa using hvalid
        rw [liftM_bind]
        refine (accounts_ask (q := .txt name) hvalid).bind fun answer _ => ?_
        split
        · next text _ => exact (expand_accounts .explanation text).bind fun _ _ => accounts_pure trivial
        · exact accounts_pure trivial
    · exact accounts_pure trivial
  · exact accounts_pure trivial

/-! ## Checks -/

/-- A value may be given after a void lookup is recorded. -/
lemma recordVoid_bind_accounts {a : α} (h : V a) :
    E.Accounts r known V (Check.recordVoid >>= fun _ => pure a) :=
  accounts_recordVoid.bind fun _ _ => accounts_pure h

/-- The domain of a target is what it expands to, or the check fails. -/
lemma targetDomain_accounts (target : Text) : E.Accounts r known (E.ExpandsTo r target) (E.targetDomain r target) := by
  refine (expandDomain_accounts target).bind fun domain hdomain => ?_
  cases domain with
  | ok domain => exact accounts_pure (hdomain domain rfl)
  | error e => exact accounts_throw _

/-- A name that is named or told is compared with the client by its addresses. -/
lemma nearName_accounts (lengths : Lengths) (client : Address)
    (hname : E.Named r known Mechanism.addressTarget? name ∨ known.Tells name) :
    E.Accounts r known (fun _ => True) (E.nearName name lengths client) := by
  refine Accounts.bind (V := fun _ => True) ?_ fun _ _ => accounts_pure trivial
  refine addresses_bind hname fun answer => ?_
  split
  · exact recordVoid_bind_accounts trivial
  · exact recordVoid_bind_accounts trivial
  · exact accounts_pure trivial
  · exact accounts_throw _

/-- Mail exchanges that were told are compared with the client by their addresses. -/
lemma nearExchange_accounts (lengths : Lengths) (client : Address) {xs : List Exchange}
    (hxs : ∀ x ∈ xs, known.Tells x.name) :
    E.Accounts r known (fun _ => True) (E.nearExchange lengths client xs) := by
  induction xs with
  | nil => exact accounts_pure trivial
  | cons x xs ih =>
    refine accounts_charge.bind fun _ _ => ?_
    refine (nearName_accounts lengths client (.inr (hxs x List.mem_cons_self))).bind fun near _ => ?_
    cases near with
    | true => exact accounts_pure trivial
    | false => exact ih fun x' hx' => hxs x' (List.mem_cons_of_mem x hx')

/-- The names of mail exchanges are told by the answer that lists them. -/
lemma names_of_records {domain : Text} {answer : Answer (.mx domain)} {exchanges : List Exchange}
    (h : answer.records = .ok exchanges) : answer.names = exchanges.map Exchange.name := by
  cases answer with
  | ok found =>
    obtain rfl := Except.ok.inj h
    rfl
  | error e =>
    cases e with
    | noSuchDomain =>
      obtain rfl := Except.ok.inj h
      rfl
    | timeout | serverFailure | refused | other reason => cases h

/-- The exchanges that are looked at are those of the answer. -/
lemma nearAnyExchange_accounts {domain : Text} (lengths : Lengths) (client : Address)
    (hdomain : E.Named r known Mechanism.exchangeTarget? domain) :
    E.Accounts r known (fun _ => True) (E.nearAnyExchange domain lengths client) := by
  refine .ask_bind (q := .mx domain) hdomain fun answer => ?_
  split
  · exact accounts_throw _
  · exact recordVoid_bind_accounts trivial
  · next exchanges _ hanswer =>
    split
    · exact Accounts.bind (V := fun _ => False) (accounts_throw _) fun _ => False.elim
    · refine nearExchange_accounts lengths client fun x hx => ?_
      have hmem : x ∈ exchanges := (Sorting.sort_perm _ _).mem_iff.mp hx
      exact ⟨.mx domain, answer, .inr rfl, names_of_records hanswer ▸ List.mem_map_of_mem hmem⟩

/-- A name of the client below a domain is looked for among its reverse names. -/
lemma namedBelow_accounts (domain : Text) : E.Accounts r known (fun _ => True) (E.namedBelow domain r.client) := by
  refine reverseNames_bind fun known' names hnames => ?_
  split
  · exact accounts_pure trivial
  · exact recordVoid_bind_accounts trivial
  · exact (confirmed_accounts r.client hnames).bind fun _ _ => accounts_pure trivial

/-- A named domain may be asked for its addresses. -/
lemma hasAddress_accounts {domain : Text} (hdomain : E.Named r known Mechanism.addressTarget? domain) :
    E.Accounts r known (fun _ => True) (E.hasAddress domain) := by
  refine (accounts_ask (q := .a domain) (.inl hdomain)).bind fun answer _ => ?_
  split
  · exact recordVoid_bind_accounts trivial
  · exact accounts_pure trivial
  · exact accounts_throw _

/-- A policy is published once it was read. -/
lemma policyAt_bind {domain : Text} {k : Option Policy → Check σ β} (hvalid : DomainName.isValid domain = true)
    (hk : ∀ known' found, (∀ p ∈ found, Knowledge.Publishes known' domain p) → E.Accounts r known' W (k found)) :
    E.Accounts r known W (E.policyAt domain >>= k) := by
  rw [policyAt, bind_assoc]
  refine .ask_bind (q := .txt domain) hvalid fun answer => ?_
  split
  · exact Accounts.bind (V := fun _ => False) (accounts_throw _) fun _ => False.elim
  · next texts hrecords =>
    split
    · next found hfound =>
      refine hk _ found fun p hp => ⟨answer, .inr rfl, ?_⟩
      simp only [Answer.policy, hrecords, hfound, Option.mem_def.mp hp]
      rfl
    · exact Accounts.bind (V := fun _ => False) (accounts_throw _) fun _ => False.elim

/-! ## Levels -/

/-- A level below asks for a client with the same identities. -/
lemma Accounts.of_descend {domain : Text} {c : Check σ α} (h : E.Accounts (r.descend domain) known V c) :
    E.Accounts r known V c := h

section

variable {nested : Request → Check σ Evaluation}
  (hnested : ∀ known r, E.Accounts r known (fun _ => True) (nested r))

include hnested

/-- An inclusion asks for what the level below it asks for. -/
lemma passedBy_accounts (domain : Text) : E.Accounts r known (fun _ => True) (passedBy nested r domain) := by
  refine (hnested known (r.descend domain)).of_descend.bind fun evaluation _ => ?_
  split
  · exact accounts_pure trivial
  · exact accounts_throw _
  · exact accounts_pure trivial

section

variable {p : Policy} (hvalid : DomainName.isValid r.domain = true) (hp : known.Publishes r.domain p)

include hvalid hp

omit hnested in
/-- A mechanism of the policy is about the domain of its level, or about what its target expands to. -/
lemma domainOrOwn_accounts {d : Directive} (hd : d ∈ p.directives) {target? : Mechanism → Option Text}
    {target : Option Text} (htarget : target? d.mechanism = target) :
    E.Accounts r known (E.Named r known target?) (E.domainOrOwn r target) := by
  cases target with
  | some target =>
    refine (targetDomain_accounts target).mono fun name hname => ?_
    exact .inr ⟨r.domain, r.depth, p, d, target, hp, hd, htarget, hname⟩
  | none => exact accounts_pure (.inl ⟨hvalid, p, hp⟩)

/-- Every mechanism of a published policy accounts for its queries. -/
lemma matchesClient_accounts {d : Directive} (hd : d ∈ p.directives) :
    E.Accounts r known (fun _ => True) (E.matchesClient nested r d.mechanism) := by
  have hown := @domainOrOwn_accounts _ E r known p hvalid hp d hd
  cases hm : d.mechanism with
  | all => exact accounts_pure trivial
  | includes target =>
    exact accounts_charge.bind fun _ _ => (targetDomain_accounts target).bind fun domain _ =>
      passedBy_accounts hnested domain
  | a target lengths =>
    exact accounts_charge.bind fun _ _ => (hown (by rw [hm]; rfl)).bind fun domain hdomain =>
      nearName_accounts lengths r.client (.inl hdomain)
  | mx target lengths =>
    exact accounts_charge.bind fun _ _ => (hown (by rw [hm]; rfl)).bind fun domain hdomain =>
      nearAnyExchange_accounts lengths r.client hdomain
  | ptr target =>
    exact accounts_charge.bind fun _ _ => (@hown (fun _ => target) _ rfl).bind fun domain _ =>
      namedBelow_accounts domain
  | ip4 network length => exact accounts_pure trivial
  | ip6 network length => exact accounts_pure trivial
  | existing target =>
    refine accounts_charge.bind fun _ _ => (targetDomain_accounts target).bind fun domain hdomain => ?_
    exact hasAddress_accounts (.inr ⟨r.domain, r.depth, p, d, target, hp, hd, by rw [hm]; rfl, hdomain⟩)

/-- Directives of a published policy account for their queries, however many are tried. -/
lemma firstMatch_accounts {ds : List Directive} (hds : ds ⊆ p.directives) :
    E.Accounts r known (fun _ => True) (E.firstMatch nested r ds) := by
  induction ds with
  | nil => exact accounts_pure trivial
  | cons d ds ih =>
    obtain ⟨hd, hds⟩ := List.cons_subset.mp hds
    refine (matchesClient_accounts hnested hvalid hp hd).bind fun found _ => ?_
    cases found with
    | true => exact accounts_pure trivial
    | false => exact ih hds

/-- A published policy is decided by queries that are accounted for. -/
lemma decide_accounts : E.Accounts r known (fun _ => True) (E.decide E.explain nested r p) := by
  refine (firstMatch_accounts hnested hvalid hp (List.Subset.refl _)).bind fun found _ => ?_
  split
  · split
    · exact (explain_accounts p).bind fun _ _ => accounts_pure trivial
    · exact (accounts_pure (V := fun _ => True) trivial).bind fun _ _ => accounts_pure trivial
  · split
    · next target _ =>
      refine accounts_charge.bind fun _ _ => (targetDomain_accounts target).bind fun domain _ => ?_
      refine (hnested known (r.descend domain)).of_descend.bind fun evaluation _ => ?_
      split
      · exact Accounts.bind (V := fun _ => False) (accounts_throw _) fun _ => False.elim
      · exact accounts_pure trivial
    · exact accounts_pure trivial

end

/-- A level asks for nothing unless its domain is valid. -/
lemma level_accounts (known : Knowledge) (r : Request) :
    E.Accounts r known (fun _ => True) (E.level E.explain nested r) := by
  rw [level_eq]
  refine (accounts_enter r.domain r.depth).bind fun _ _ => ?_
  refine Accounts.bind (V := fun _ => True) ?_ fun _ _ => ?_
  · rw [admitDepth]
    split
    · exact accounts_throw _
    · exact accounts_pure trivial
  · rw [admitted]
    split
    · exact accounts_pure trivial
    · next hvalid =>
      have hvalid : DomainName.isValid r.domain = true := by simpa using hvalid
      refine policyAt_bind hvalid fun known' found hfound => ?_
      cases found with
      | none => exact accounts_pure trivial
      | some p => exact decide_accounts hnested hvalid (hfound p rfl)

end

/-- Levels account for their queries, however deep they may nest. -/
lemma nest_accounts (n : Nat) (known : Knowledge) (r : Request) :
    E.Accounts r known (fun _ => True) (E.nest E.explain n r) := by
  induction n generalizing known r with
  | zero =>
    refine level_accounts (fun known r => ?_) known r
    exact accounts_of_no_query fun s => ⟨[], rfl, fun _ => trivial, by simp⟩
  | succ n ih => exact level_accounts ih known r

/-- Every query of an evaluation is accounted for. Texts are asked for at valid names; reverse names are those of the
client; and hosts are asked for at the domain of a policy that was read, which is valid, at what a target of such a
policy expands to, or at a name that was told. What a target expands to is not checked: it is valid unless it is a
single label, or has a label that is empty, too long, or holds a blank or a control character. -/
theorem evaluate_accounted (E : Engine σ) (r : Request) (s : Session σ) :
    (∃ t, ((E.evaluate r).runFrom s).2 = s.replay E.resolver t ∧
      ∀ q u, .asked q :: u <:+ t → E.Accounted r (fun q answer => s.Exchanged E.resolver u q answer) q) ∧
    ∀ r target name, E.ExpandsTo r target name → (DomainName.isValid name = true ↔
      '.' ∈ name ∧ ∀ label ∈ DomainName.labels name, DomainName.labelFault? label = none) := by
  constructor
  · obtain ⟨t, hs, -, hqueries⟩ := nest_accounts (E := E) s.budget.remaining (fun _ _ => False) r s
    exact ⟨t, hs, fun q u hu => (hqueries hu).mono fun h => h.resolve_left id⟩
  · rintro r target name ⟨validated, hname⟩
    obtain ⟨t, -, rfl⟩ := exists_of_map_eq_ok hname
    exact (isValid_domainOfExpansion_iff t).2

/-- The address of a name with a blank in it is asked for, because the local part of the sender has one. -/
theorem evaluate_asks_blank :
    let E : Engine Unit :=
      { resolver := .fixed fun
          | .txt _ => .ok ["v=spf1 exists:%{l}.b.example -all".toList]
          | _ => .error .noSuchDomain
        options := {}
        now := 0 }
    let r : Request := ⟨"u u@a.example".toList, "a.example".toList, .v4 ⟨0xC0000201⟩, "a.example".toList, 0⟩
    Template.check .domain "%{l}.b.example".toList = .ok () ∧
      ((E.evaluate r).runFrom (E.fresh ())).2.queries = [.txt "a.example".toList, .a "u u.b.example".toList] ∧
      DomainName.isValid "u u.b.example".toList = false := by
  decide +kernel

end Engine

end SenderPolicy
