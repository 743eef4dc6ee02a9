import SenderPolicy.Proofs.ReverseNames
import SenderPolicy.Proofs.Scopes

/-!
# The name of the client

One confirmed name stands for the client in templates. The domain itself is preferred to a name below it, and that to
any other. But a name is taken for the domain only if it has as many dots at its end. So a name below the domain goes
before the domain if it is listed before it and the domain is only listed with other dots (`Overtaken`), and that is the
only exception (`validatedName_prefers_iff`).
-/

namespace SenderPolicy.Engine

variable {σ : Type} {E : Engine σ}

/-! ## The order of preference -/

/-- The domain is listed, but with other dots at its end, and a name below it is listed first. -/
def Overtaken (domain : Text) (names : List Text) : Prop :=
  (∀ name ∈ names, Text.sameLetters name domain = false) ∧
    ∃ front below back, names = front ++ below :: back ∧ (∀ name ∈ front, ¬DomainName.IsSame domain name) ∧
      DomainName.IsBelow domain below ∧ ∃ name ∈ back, DomainName.IsSame domain name

/-- How the preferred name is found among names. -/
inductive Choice (domain : Text) (names : List Text) : Option Text → Prop where
  | letters {name} (hname : name ∈ names) (hletters : Text.sameLetters name domain = true) :
    Choice domain names (some name)
  | below {name} (hletters : ∀ name ∈ names, Text.sameLetters name domain = false)
    (hfirst : names.find? (DomainName.isSameOrBelow · domain) = some name) : Choice domain names (some name)
  | other (hnone : ∀ name ∈ names, ¬DomainName.IsSame domain name ∧ ¬DomainName.IsBelow domain name) :
    Choice domain names names.head?

/-- The preferred name is found in one of the three ways. -/
lemma choice_preferred (domain : Text) (names : List Text) : Choice domain names (preferred domain names) := by
  rw [preferred]
  cases hletters : names.find? (Text.sameLetters · domain) with
  | some name =>
    rw [Option.some_or]
    exact .letters (List.mem_of_find?_eq_some hletters) (List.find?_eq_some_iff_append.mp hletters).1
  | none =>
    rw [Option.none_or]
    cases hfirst : names.find? (DomainName.isSameOrBelow · domain) with
    | some name =>
      rw [Option.some_or]
      exact .below (by simpa using hletters) hfirst
    | none =>
      rw [Option.none_or]
      refine .other fun name hname => not_or.mp ?_
      rw [← DomainName.isSameOrBelow_iff]
      exact List.find?_eq_none.mp hfirst name hname

section

variable {domain : Text} {names : List Text} {chosen : Option Text}

/-- A name that is found is one of the names. -/
lemma Choice.mem (h : Choice domain names chosen) {name : Text} (hname : name ∈ chosen) : name ∈ names := by
  cases h with
  | letters hmem _ => exact Option.some.inj hname ▸ hmem
  | below _ hfirst => exact Option.some.inj hname ▸ List.mem_of_find?_eq_some hfirst
  | other _ => exact List.mem_of_mem_head? hname

/-- None is found only where there are no names. -/
lemma Choice.eq_none_iff (h : Choice domain names chosen) : chosen = none ↔ names = [] := by
  cases h with
  | letters hmem _ => exact iff_of_false nofun (List.ne_nil_of_mem hmem)
  | below _ hfirst => exact iff_of_false nofun (List.ne_nil_of_mem (List.mem_of_find?_eq_some hfirst))
  | other _ => exact List.head?_eq_none_iff

/-- Where a name below the domain is the first of those at or below it, the domain is overtaken if it is listed. -/
lemma overtaken_iff {name : Text} (hletters : ∀ name ∈ names, Text.sameLetters name domain = false)
    (hfirst : names.find? (DomainName.isSameOrBelow · domain) = some name) :
    Overtaken domain names ↔ DomainName.IsBelow domain name ∧ ∃ same ∈ names, DomainName.IsSame domain same := by
  constructor
  · rintro ⟨-, front, below, back, rfl, hfront, hbelow, same, hsame, hback⟩
    have hmem : same ∈ front ++ below :: back := List.mem_append_right _ (List.mem_cons_of_mem _ hsame)
    refine ⟨?_, same, hmem, hback⟩
    -- no name of the front is the domain, so the first name is below it there, or it is what overtakes
    rw [List.find?_append] at hfirst
    cases hfind : front.find? (DomainName.isSameOrBelow · domain) with
    | some other =>
      rw [hfind, Option.some_or] at hfirst
      obtain rfl := Option.some.inj hfirst
      obtain ⟨hother, -⟩ := List.find?_eq_some_iff_append.mp hfind
      exact (DomainName.isSameOrBelow_iff.mp hother).resolve_left (hfront other (List.mem_of_find?_eq_some hfind))
    | none =>
      rw [hfind, Option.none_or, List.find?_cons_of_pos (p := (DomainName.isSameOrBelow · domain))
        (DomainName.isSameOrBelow_iff.mpr (.inr hbelow))] at hfirst
      exact Option.some.inj hfirst ▸ hbelow
  · rintro ⟨hbelow, same, hmem, hsame⟩
    obtain ⟨-, front, back, rfl, hfront⟩ := List.find?_eq_some_iff_append.mp hfirst
    have hfront' : ∀ other ∈ front, ¬DomainName.IsSame domain other := by
      intro other hother hsame
      have hnot := hfront other hother
      rw [DomainName.isSameOrBelow_iff.mpr (.inl hsame)] at hnot
      cases hnot
    refine ⟨hletters, front, name, back, rfl, hfront', hbelow, same, ?_, hsame⟩
    rcases List.mem_append.mp hmem with hmem | hmem
    · exact absurd hsame (hfront' same hmem)
    · rcases List.mem_cons.mp hmem with rfl | hmem
      · exact absurd hsame hbelow.not_isSame
      · exact hmem

/-- The domain is preferred unless it is overtaken. -/
lemma Choice.same_iff (h : Choice domain names chosen) :
    ((∃ name ∈ names, DomainName.IsSame domain name) → ∃ name ∈ chosen, DomainName.IsSame domain name) ↔
      ¬Overtaken domain names := by
  cases h with
  | @letters name hmem hletters =>
    refine iff_of_true (fun _ => ⟨name, rfl, DomainName.isSame_of_sameLetters hletters⟩) fun hovertaken => ?_
    rw [hovertaken.1 name hmem] at hletters
    cases hletters
  | @below name hletters hfirst =>
    rw [overtaken_iff hletters hfirst]
    obtain ⟨hname, -⟩ := List.find?_eq_some_iff_append.mp hfirst
    rcases DomainName.isSameOrBelow_iff.mp hname with hsame | hbelow
    · exact iff_of_true (fun _ => ⟨name, rfl, hsame⟩) fun h => h.1.not_isSame hsame
    · rw [and_iff_right hbelow]
      refine imp_congr_right fun _ => iff_of_false ?_ fun h => h
      rintro ⟨name', hname', hsame⟩
      exact hbelow.not_isSame (Option.some.inj hname' ▸ hsame)
  | other hnone =>
    refine iff_of_true (fun ⟨name, hmem, hsame⟩ => absurd hsame (hnone name hmem).1) ?_
    rintro ⟨-, front, below, back, rfl, -, hbelow, -⟩
    exact (hnone below (List.mem_append_right _ List.mem_cons_self)).2 hbelow

/-- A name below the domain is preferred to one that has nothing to do with it. -/
lemma Choice.below_of_forall (h : Choice domain names chosen) (hsame : ∀ name ∈ names, ¬DomainName.IsSame domain name)
    (hbelow : ∃ name ∈ names, DomainName.IsBelow domain name) : ∃ name ∈ chosen, DomainName.IsBelow domain name := by
  cases h with
  | letters hmem hletters => exact absurd (DomainName.isSame_of_sameLetters hletters) (hsame _ hmem)
  | @below name _ hfirst =>
    obtain ⟨hname, -⟩ := List.find?_eq_some_iff_append.mp hfirst
    refine ⟨name, rfl, (DomainName.isSameOrBelow_iff.mp hname).resolve_left ?_⟩
    exact hsame name (List.mem_of_find?_eq_some hfirst)
  | other hnone =>
    obtain ⟨name, hmem, hname⟩ := hbelow
    exact absurd hname (hnone name hmem).2

/-- Of names that have nothing to do with the domain, the first is preferred. -/
lemma Choice.eq_head? (h : Choice domain names chosen)
    (hnone : ∀ name ∈ names, ¬DomainName.IsSame domain name ∧ ¬DomainName.IsBelow domain name) :
    chosen = names.head? := by
  cases h with
  | letters hmem hletters => exact absurd (DomainName.isSame_of_sameLetters hletters) (hnone _ hmem).1
  | @below name _ hfirst =>
    obtain ⟨hname, -⟩ := List.find?_eq_some_iff_append.mp hfirst
    exact absurd (DomainName.isSameOrBelow_iff.mp hname) (not_or.mpr (hnone name (List.mem_of_find?_eq_some hfirst)))
  | other _ => rfl

end

/-! ## The name in templates -/

/-- The name that stands for the client in templates is a confirmed name, and there is none exactly if no name is
confirmed. It is the domain if the domain is among the confirmed names, unless a name below the domain overtakes it. If
the domain is not among them, it is a name below the domain if one is confirmed, and else the first confirmed name. -/
theorem validatedName_prefers_iff (E : Engine σ) (r : Request) (s : Session σ) :
    let names := E.confirmedNames r.client s
    let chosen := ((E.validatedName r).runFrom s).1
    (∀ name, name ∈ names ↔ E.Confirmed r.client s name) ∧ (∀ name ∈ chosen, E.Confirmed r.client s name) ∧
      (chosen = none ↔ ∀ name, ¬E.Confirmed r.client s name) ∧
      (∀ scope, ((E.expand scope r "%{p}".toList).runFrom s).1 = .ok (chosen.getD "unknown".toList)) ∧
      (((∃ name ∈ names, DomainName.IsSame r.domain name) → ∃ name ∈ chosen, DomainName.IsSame r.domain name) ↔
        ¬Overtaken r.domain names) ∧
      ((∀ name ∈ names, ¬DomainName.IsSame r.domain name) → (∃ name ∈ names, DomainName.IsBelow r.domain name) →
        ∃ name ∈ chosen, DomainName.IsBelow r.domain name) ∧
      ((∀ name ∈ names, ¬DomainName.IsSame r.domain name ∧ ¬DomainName.IsBelow r.domain name) →
        chosen = names.head?) := by
  intro names chosen
  have hchoice : Choice r.domain names chosen := by
    simp only [chosen, validatedName_runFrom]
    exact choice_preferred r.domain names
  refine ⟨fun _ => mem_confirmedNames, fun name hname => mem_confirmedNames.mp (hchoice.mem hname), ?_, fun scope => ?_,
    hchoice.same_iff, hchoice.below_of_forall, hchoice.eq_head?⟩
  · rw [hchoice.eq_none_iff, List.eq_nil_iff_forall_not_mem]
    exact forall_congr' fun name => not_congr mem_confirmedNames
  · rw [runFrom_expand]
    show Template.expand scope (E.transaction r chosen) "%{p}".toList = _
    exact Template.expand_letter (E.transaction r chosen) .validatedName (by cases scope <;> decide +kernel)

/-- The reverse names of a client are below a domain and, with a dot at its end, the domain itself. -/
def domainLast : (q : Query) → Answer q
  | .ptr _ => .ok ["mail.a.example".toList, "a.example.".toList]
  | .a name => if name = "x.mail.a.example".toList then .error .noSuchDomain else .ok [⟨1⟩]
  | .txt _ => .ok ["v=spf1 exists:x.%{p} -all".toList]
  | _ => .error .noSuchDomain

/-- The domain is confirmed, but the name of the client is one below it, because that is listed without a dot at its end
and before the domain. Taken for the domain, the name would pass the client. -/
theorem validatedName_overtaken :
    let E : Engine Unit := ⟨.fixed domainLast, {}, 0⟩
    let r : Request := ⟨"u@a.example".toList, "a.example".toList, .v4 ⟨1⟩, "h.example".toList, 0⟩
    let s : Session Unit := .start (.fresh 10 2) ()
    let names := E.confirmedNames r.client s
    names = ["mail.a.example".toList, "a.example.".toList] ∧ (∃ name ∈ names, DomainName.IsSame r.domain name) ∧
      ((E.validatedName r).runFrom s).1 = some "mail.a.example".toList ∧
      ¬(∃ name ∈ ((E.validatedName r).runFrom s).1, DomainName.IsSame r.domain name) ∧
      ((E.evaluate r).runFrom s).1 = .ok ⟨.fail, none⟩ ∧
      ((E.evaluate r).runFrom s).2.queries = [.txt "a.example".toList, .ptr r.client, .a "mail.a.example".toList,
        .a "a.example.".toList, .a "x.mail.a.example".toList] := by
  intro E r s names
  have hnames : names = ["mail.a.example".toList, "a.example.".toList] := by decide +kernel
  have hchosen : ((E.validatedName r).runFrom s).1 = some "mail.a.example".toList := by decide +kernel
  refine ⟨hnames, ⟨"a.example.".toList, ?_, by decide⟩, hchosen, ?_, by decide +kernel, by decide +kernel⟩
  · rw [hnames]
    decide
  · rw [hchosen]
    rintro ⟨name, hname, hsame⟩
    obtain rfl := Option.some.inj hname
    exact absurd hsame (by decide)

end SenderPolicy.Engine
