import SenderPolicy.Proofs.Redrafts

/-!
# The HELO identity

A HELO identity may come with a query or stand in the options, and it counts for the same there. So a query that gives
one is answered like one that gives none, under options that have it (`check_congr`). What is made of a text on the way
into the options is the same as what a query makes of it, but for a text of nothing but dots: options do not keep it,
and a query takes it for the empty identity, before it would turn to the options or the domain (`check_helo_iff`).
-/

namespace SenderPolicy.Engine

variable {σ : Type}

/-! ## Options with another identity -/

/-- The engine whose options have another HELO identity. -/
def atHelo (E : Engine σ) (helo : Option Text) : Engine σ where
  resolver := E.resolver
  options := { E.options with helo := helo }
  now := E.now

variable (E : Engine σ) (helo : Option Text)

/-- The HELO identity of the options is for requests only: evaluations do not look at it. -/
lemma agree_atHelo : Agree (lockstep Eq) E (E.atHelo helo) where
  ask := lockstep.matches_ask ⟨fun _ {_ _} h => h ▸ rfl, fun _ {_ _} h => h ▸ rfl⟩
  enter := (lockstep.inseparable E.resolver E.resolver).matches_enter
  charge := (lockstep.inseparable E.resolver E.resolver).matches_charge
  recordVoid := (lockstep.inseparable E.resolver E.resolver).matches_recordVoid
  admitDepth _ := .guard _
  admitExchanges _ _ := .guard _
  maxPtrNames := rfl
  transaction := rfl

/-- An evaluation goes the same way whatever HELO identity the options have. -/
lemma runFrom_evaluate_atHelo (r : Request) (s : Session σ) :
    ((E.atHelo helo).evaluate r).runFrom s = (E.evaluate r).runFrom s := by
  have hagree := E.agree_atHelo helo
  have hC : (lockstep Eq).Inseparable E.resolver (E.atHelo helo).resolver := lockstep.inseparable _ _
  have hstart : (lockstep Eq).together s s := ⟨rfl, rfl, rfl⟩
  have hends := hagree.upToOrder.evaluateWith hC (fun _ => rfl) hstart (r := r) fun p r' _ => hagree.explain p r'
  obtain ⟨hresult, htogether⟩ := hends.result_eq hC.not_parted
  exact Prod.ext hresult.symm (lockstep.eq_of_together htogether).symm

/-! ## Given and configured identities -/

/-- What a query takes for the HELO identity that it gives, unless that is blank. -/
def givenHelo (h : Text) : Text :=
  Text.lower (Text.dropDots (Text.trim h))

/-- Options keep no identity that has nothing besides blanks around it and dots at its end. -/
lemma identity?_eq_none_iff {h : Text} : Options.identity? h = none ↔ Text.dropDots (Text.trim h) = [] := by
  simp only [Options.identity?]
  split
  · next hempty => exact iff_of_true rfl (List.isEmpty_iff.mp hempty)
  · next hne => exact iff_of_false nofun fun hnil => hne (List.isEmpty_iff.mpr hnil)

/-- Options keep of an identity what a query takes for it. -/
lemma identity?_eq_some {h v : Text} (hv : Options.identity? h = some v) : v = givenHelo h := by
  simp only [Options.identity?] at hv
  split at hv
  · cases hv
  · exact (Option.some.inj hv).symm

/-- A query takes a text for the empty identity if it has nothing besides blanks and dots. -/
lemma givenHelo_eq_nil_iff {h : Text} : givenHelo h = [] ↔ Text.dropDots (Text.trim h) = [] :=
  List.map_eq_nil_iff

/-- The text has something besides blanks around it, but only dots. -/
def OnlyDots (h : Text) : Prop :=
  Text.trim h ≠ [] ∧ givenHelo h = []

/-- The engine under options with a HELO identity, if they keep one for the text. -/
def configured (E : Engine σ) (h : Text) : Engine σ :=
  if (E.options.withHelo h).helo.isSome then { E with options := E.options.withHelo h } else E

/-- Options that are given an empty identity stay as they are. -/
lemma configured_of_eq_nil {h : Text} (hnil : givenHelo h = []) : E.configured h = E := by
  have hnone : (E.options.withHelo h).helo = none := identity?_eq_none_iff.mpr (givenHelo_eq_nil_iff.mp hnil)
  rw [configured, hnone]
  rfl

/-- Options that are given any other identity have what a query takes for it. -/
lemma configured_of_ne_nil {h : Text} (hne : givenHelo h ≠ []) : E.configured h = E.atHelo (some (givenHelo h)) := by
  obtain ⟨v, hv⟩ := Option.ne_none_iff_exists'.mp (mt identity?_eq_none_iff.mp (mt givenHelo_eq_nil_iff.mpr hne))
  rw [← identity?_eq_some hv, ← hv, configured]
  exact if_pos (Option.isSome_iff_exists.mpr ⟨v, hv⟩)

variable {E helo} {sender : Text} {client : Address} {h : Text} {state : σ}

/-- A blank identity is as good as none: the options decide, or the domain stands for it. -/
lemma heloIdentity_of_blank (hblank : Text.trim h = []) (domain : Text) :
    E.heloIdentity (some h) domain = E.options.helo.getD domain := by
  rw [heloIdentity, Option.map_some, hblank]
  rfl

/-- An identity that is not blank counts before that of the options. -/
lemma heloIdentity_of_not_blank (hblank : Text.trim h ≠ []) (domain : Text) :
    E.heloIdentity (some h) domain = givenHelo h := by
  have hfilter : ((some h).map Text.trim).filter (!·.isEmpty) = some (Text.trim h) := by
    simp [hblank]
  rw [heloIdentity, hfilter]
  rfl

/-! ## Queries that give an identity -/

/-- A query that gives an identity is answered like one that gives none where the options have what is given. -/
lemma check_congr {given : Option Text} (hgiven : ∀ domain, E.heloIdentity given domain = helo.getD domain) :
    E.check sender client given state = (E.atHelo helo).check sender client none state := by
  rw [check, check]
  cases DomainName.normalize (Mailbox.ofSender sender).domain with
  | error f => rfl
  | ok domain =>
    have hrequest : E.request (Mailbox.ofSender sender).localPart domain client.canonical given =
        (E.atHelo helo).request (Mailbox.ofSender sender).localPart domain client.canonical none := by
      rw [request, request, hgiven]
      rfl
    dsimp only
    rw [hrequest, runFrom_evaluate_atHelo]
    rfl

/-- A query that gives a blank identity is answered like one that gives none. -/
lemma check_of_blank (hblank : Text.trim h = []) :
    E.check sender client (some h) state = E.check sender client none state :=
  check_congr (heloIdentity_of_blank hblank)

/-- A query that gives an identity is answered as under options that have it. -/
lemma check_of_not_blank (hblank : Text.trim h ≠ []) :
    E.check sender client (some h) state = (E.atHelo (some (givenHelo h))).check sender client none state :=
  check_congr (heloIdentity_of_not_blank hblank)

/-- A query about a malformed domain is turned down, whatever identity it gives. -/
lemma check_of_error {given : Option Text} {f : Failure}
    (hnormal : DomainName.normalize (Mailbox.ofSender sender).domain = .error f) :
    E.check sender client given state = (.rejected sender (some client.canonical) f, E.fresh state) := by
  rw [check, hnormal]

/-- An accepted query shows the identity that it counted by. -/
lemma helo_check {given : Option Text} {domain : Text}
    (hnormal : DomainName.normalize (Mailbox.ofSender sender).domain = .ok domain) :
    (E.check sender client given state).1.helo = some (E.heloIdentity given domain) := by
  rw [check, hnormal]
  rfl

/-- The normal form of a domain is not empty. -/
lemma ne_nil_of_normalize {domain name : Text} (hnormal : DomainName.normalize domain = .ok name) : name ≠ [] := by
  rintro rfl
  cases DomainName.isValid_of_normalize hnormal

/-- The identity that is shown is empty only if the query gives nothing but dots, or gives nothing where the options
have an empty one. -/
lemma helo_check_eq_nil_iff {domain : Text}
    (hnormal : DomainName.normalize (Mailbox.ofSender sender).domain = .ok domain) :
    (E.check sender client (some h) state).1.helo = some [] ↔
      OnlyDots h ∨ Text.trim h = [] ∧ E.options.helo = some [] := by
  rw [helo_check hnormal, Option.some_inj]
  by_cases hblank : Text.trim h = []
  · rw [heloIdentity_of_blank hblank]
    have hdots : ¬OnlyDots h := fun hdots => hdots.1 hblank
    cases E.options.helo with
    | none => exact iff_of_false (ne_nil_of_normalize hnormal) (by simp [hdots])
    | some helo => simp [hdots, hblank]
  · rw [heloIdentity_of_not_blank hblank]
    simp [OnlyDots, hblank]

/-- Unless it is made of dots alone, options and queries make the same of a text. -/
lemma check_configured (hdots : ¬OnlyDots h) :
    E.check sender client (some h) state = (E.configured h).check sender client none state := by
  by_cases hnil : givenHelo h = []
  · have hblank : Text.trim h = [] := by
      by_contra hblank
      exact hdots ⟨hblank, hnil⟩
    rw [E.configured_of_eq_nil hnil]
    exact check_of_blank hblank
  · have hblank : Text.trim h ≠ [] := by
      intro hblank
      exact hnil (givenHelo_eq_nil_iff.mpr (by rw [hblank]; rfl))
    rw [E.configured_of_ne_nil hnil]
    exact check_of_not_blank hblank

/-- A text of dots alone is no different from none only where the options have an empty identity. -/
lemma check_onlyDots_iff {domain : Text} (hnormal : DomainName.normalize (Mailbox.ofSender sender).domain = .ok domain)
    (hdots : OnlyDots h) :
    E.check sender client (some h) state = E.check sender client none state ↔ E.options.helo = some [] := by
  rw [check_of_not_blank hdots.1, hdots.2]
  constructor
  · intro heq
    have hhelo := congrArg (fun x => x.1.helo) heq
    rw [helo_check hnormal, helo_check hnormal, Option.some_inj] at hhelo
    have hshown : ([] : Text) = E.options.helo.getD domain := hhelo
    cases hconfigured : E.options.helo with
    | none =>
      rw [hconfigured] at hshown
      exact absurd hshown.symm (ne_nil_of_normalize hnormal)
    | some helo =>
      rw [hconfigured, Option.getD_some] at hshown
      rw [hshown]
  · intro hempty
    exact (check_congr fun _ => by rw [heloIdentity, hempty]; rfl).symm

/-- A query that gives a HELO identity is answered like one that gives none under options that were given it, or under
the same options if they do not keep it; unless the identity is made of dots alone, and the query is not turned down.
Then, and if the options have an empty identity where none is given, the outcome shows an empty one. -/
theorem check_helo_iff (E : Engine σ) (sender : Text) (client : Address) (h : Text) (state : σ) :
    let given := E.check sender client (some h) state
    let accepted := ∃ domain, DomainName.normalize (Mailbox.ofSender sender).domain = .ok domain
    (given = (E.configured h).check sender client none state ↔
      ¬(OnlyDots h ∧ E.options.helo ≠ some [] ∧ accepted)) ∧
    (given.1.helo = some [] ↔ (OnlyDots h ∨ Text.trim h = [] ∧ E.options.helo = some []) ∧ accepted) := by
  intro given accepted
  cases hnormal : DomainName.normalize (Mailbox.ofSender sender).domain with
  | error f =>
    -- a query that is turned down has no HELO identity, whatever it gives
    have haccepted : ¬accepted := by
      rintro ⟨domain, hdomain⟩
      cases hnormal.symm.trans hdomain
    have hgiven : given = (.rejected sender (some client.canonical) f, E.fresh state) := check_of_error hnormal
    have hfresh : (E.configured h).fresh state = E.fresh state := by
      rw [configured]
      split
      · rfl
      · rfl
    refine ⟨iff_of_true ?_ fun hdots => haccepted hdots.2.2, iff_of_false ?_ fun hempty => haccepted hempty.2⟩
    · rw [hgiven, check_of_error hnormal, hfresh]
    · rw [hgiven]
      exact nofun
  | ok domain =>
    have haccepted : accepted := ⟨domain, hnormal⟩
    refine ⟨?_, (helo_check_eq_nil_iff hnormal).trans (and_iff_left haccepted).symm⟩
    by_cases hdots : OnlyDots h
    · -- options do not keep such an identity, and a query that gives it has an empty one
      have hiff : given = E.check sender client none state ↔ E.options.helo = some [] := check_onlyDots_iff hnormal hdots
      rw [E.configured_of_eq_nil hdots.2, hiff]
      exact ⟨fun hempty hno => hno.2.1 hempty, fun hno => by_contra fun hempty => hno ⟨hdots, hempty, haccepted⟩⟩
    · exact iff_of_true (check_configured hdots) fun hno => hdots hno.1

/-- For a single dot the options keep nothing, and a query that gives it shows an empty identity instead of the
domain. -/
theorem check_helo_dot :
    let answers : (q : Query) → Answer q
      | .txt _ => .ok ["v=spf1 ip4:192.0.2.0/24 -all".toList]
      | _ => .error .noSuchDomain
    let E : Engine Unit := .fixed answers {} 0
    let given := E.check "user@example.com".toList (.v4 ⟨0xC0000201⟩) (some ".".toList) ()
    let fallback := E.check "user@example.com".toList (.v4 ⟨0xC0000201⟩) none ()
    (E.options.withHelo ".".toList).helo = none ∧ E.options.helo = none ∧ given.1.verdict = .pass ∧
      given.1.helo = some [] ∧ fallback.1.helo = some "example.com".toList ∧ given.1 ≠ fallback.1 := by
  decide +kernel

end SenderPolicy.Engine
