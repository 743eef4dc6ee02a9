import SenderPolicy.Proofs.Lockstep
import SenderPolicy.Proofs.NoPolicy
import SenderPolicy.Proofs.NormalForm
import SenderPolicy.Proofs.Outcomes

/-!
# The sender that is checked

A sender is cut at its last at sign, its domain is brought into normal form, and the two are put together again. That is
the sender of the outcome, and templates cut it once more, at its last at sign. They find the domain that is checked
exactly if the normal form has no at sign (`answer_sender_iff`). It may have one, because a full-width at sign becomes
one; then templates take part of the domain for the local part.
-/

namespace SenderPolicy

variable {σ : Type}

/-! ## Mailboxes that are cut again -/

namespace Mailbox

/-- The local part of a sender is not empty, and does not start with a blank. -/
lemma exists_localPart_eq_cons (sender : Text) :
    ∃ c rest, (ofSender sender).localPart = c :: rest ∧ Text.isBlank c = false := by
  rw [ofSender]
  rcases hcut : Text.cutLast '@' (Text.trim sender) with _ | ⟨_ | ⟨c, rest⟩, domain⟩
  · exact ⟨'p', "ostmaster".toList, rfl, rfl⟩
  · exact ⟨'p', "ostmaster".toList, rfl, rfl⟩
  · exact ⟨c, rest, rfl, Text.isBlank_of_trim_eq_cons (Text.eq_of_cutLast hcut)⟩

section

variable {m : Mailbox} {c : Char} {rest : Text} (hlocal : m.localPart = c :: rest) (hc : Text.isBlank c = false)
  (hdomain : ∀ d ∈ m.domain, Text.isBlank d = false)

include hlocal hc hdomain

/-- A mailbox that was put together has no blanks around it. -/
lemma trim_text : Text.trim m.text = m.text := by
  refine Text.trim_eq_self (fun d hd => ?_) fun d hd => ?_
  · rw [text, hlocal] at hd
    obtain rfl := Option.some.inj hd
    exact hc
  · have hmem : d ∈ '@' :: m.domain := by
      rw [text, List.getLast?_append_of_ne_nil _ (List.cons_ne_nil _ _)] at hd
      exact List.mem_of_getLast? hd
    rcases List.mem_cons.mp hmem with rfl | hmem
    · rfl
    · exact hdomain d hmem

/-- The parts of a mailbox that was put together are found around its last at sign. -/
lemma exists_ofSender_text :
    (ofSender m.text).text = m.text ∧ '@' ∉ (ofSender m.text).domain := by
  have hmem : '@' ∈ m.text := List.mem_append_right _ List.mem_cons_self
  obtain ⟨a, b, hab, hb⟩ := Text.exists_of_mem hmem
  have hne : a ≠ [] := by
    rintro rfl
    rw [text, hlocal, List.nil_append, List.cons_append] at hab
    obtain ⟨-, rfl⟩ := List.cons.inj hab
    exact hb (List.mem_append_right _ List.mem_cons_self)
  have hparts : ofSender m.text = ⟨a, b⟩ := by
    rw [ofSender, trim_text hlocal hc hdomain, hab, Text.cutLast_append hb]
    obtain ⟨d, a, rfl⟩ := List.exists_cons_of_ne_nil hne
    rfl
  rw [hparts]
  exact ⟨hab.symm, hb⟩

/-- A mailbox is found again if its domain has no at sign. -/
lemma ofSender_text (h : '@' ∉ m.domain) : ofSender m.text = m := by
  rw [ofSender, trim_text hlocal hc hdomain, text, Text.cutLast_append h, hlocal]
  cases m
  cases hlocal
  rfl

/-- The domain is found again if and only if it has no at sign. -/
lemma domain_ofSender_text_iff : (ofSender m.text).domain = m.domain ↔ '@' ∉ m.domain := by
  refine ⟨fun h => ?_, fun h => congrArg domain (ofSender_text hlocal hc hdomain h)⟩
  rw [← h]
  exact (exists_ofSender_text hlocal hc hdomain).2

/-- And so the mailbox is. -/
lemma ofSender_text_iff : ofSender m.text = m ↔ '@' ∉ m.domain := by
  refine ⟨fun h => ?_, ofSender_text hlocal hc hdomain⟩
  exact (domain_ofSender_text_iff hlocal hc hdomain).mp (congrArg domain h)

end

end Mailbox

/-! ## Templates that refer to the sender -/

namespace Template

/-- A template that is one letter stands for the domain of the sender. -/
lemma expand_senderDomain (scope : Scope) (x : Transaction) : expand scope x "%{o}".toList = .ok x.mailbox.domain :=
  expand_letter x .senderDomain (by cases scope <;> decide +kernel)

/-- A template that is one letter stands for the sender. -/
lemma expand_sender (scope : Scope) (x : Transaction) : expand scope x "%{s}".toList = .ok x.sender :=
  expand_letter x .sender (by cases scope <;> decide +kernel)

/-- The two parts of the sender and an at sign expand to its mailbox. -/
lemma expand_mailbox (scope : Scope) (x : Transaction) : expand scope x "%{l}@%{o}".toList = .ok x.mailbox.text := by
  have hparse : parse scope "%{l}@%{o}".toList = .ok [.expand ⟨.localPart, false, ⟨none, false, []⟩⟩, .copy '@',
      .expand ⟨.senderDomain, false, ⟨none, false, []⟩⟩] := by
    cases scope <;> decide +kernel
  rw [expand, hparse]
  show Except.ok (Transformer.apply ⟨none, false, []⟩ x.mailbox.localPart ++
    '@' :: (Transformer.apply ⟨none, false, []⟩ x.mailbox.domain ++ [])) = _
  rw [apply_plain, apply_plain, List.append_nil]
  rfl

end Template

/-! ## Outcomes -/

/-- The sender that an inquiry is about, as it is given. -/
def Inquiry.sender : Inquiry → Text
  | .text sender _ => sender
  | .address sender _ _ => sender

namespace Engine

variable {E : Engine σ}

/-- The sender of an inquiry that is not turned down is put together of its local part and the normal form of its
domain. -/
lemma check_sender {sender : Text} {client : Address} {helo : Option Text} {state : σ}
    (h : (E.check sender client helo state).1.verdict ≠ .invalid) :
    ∃ domain, DomainName.normalize (Mailbox.ofSender sender).domain = .ok domain ∧
      (E.check sender client helo state).1.domain = domain ∧
      (E.check sender client helo state).1.sender = Mailbox.text ⟨(Mailbox.ofSender sender).localPart, domain⟩ := by
  rw [check] at h ⊢
  cases hnormal : DomainName.normalize (Mailbox.ofSender sender).domain with
  | error f =>
    rw [hnormal] at h
    exact absurd (DomainName.verdict_of_normalize hnormal) h
  | ok domain => exact ⟨domain, rfl, rfl, rfl⟩

/-- The sender of an answer that is no refusal has the local part that was given, and the domain in normal form. -/
lemma answer_sender {state : σ} {i : Inquiry} (h : (E.answer state i).1.verdict ≠ .invalid) :
    ∃ domain, DomainName.normalize (Mailbox.ofSender i.sender).domain = .ok domain ∧
      (E.answer state i).1.domain = domain ∧
      (E.answer state i).1.sender = Mailbox.text ⟨(Mailbox.ofSender i.sender).localPart, domain⟩ := by
  cases i with
  | address sender client helo =>
    simp only [answer, Inquiry.sender] at h ⊢
    exact check_sender h
  | text sender address =>
    simp only [answer, checkText, Inquiry.sender] at h ⊢
    cases hclient : Address.ofText? (Text.trim address) with
    | some client =>
      simp only [hclient] at h ⊢
      exact check_sender h
    | none =>
      simp only [hclient] at h
      exact absurd rfl h

/-- The sender of an outcome that was not turned down is cut into the local part that was given and the domain that was
checked if and only if that domain has no at sign. The same goes for templates, at every level: exactly then the domain
of the sender stands for the domain that was checked. The sender stands for its two parts in any case. -/
theorem answer_sender_iff (E : Engine σ) (state : σ) (i : Inquiry) (h : (E.answer state i).1.verdict ≠ .invalid) :
    let o := (E.answer state i).1
    (Mailbox.ofSender o.sender = ⟨(Mailbox.ofSender i.sender).localPart, o.domain⟩ ↔ '@' ∉ o.domain) ∧
      ∀ r : Request, r.sender = o.sender → ∀ (scope : Scope) (name : Option Text),
        (Template.expand scope (E.transaction r name) "%{o}".toList = .ok o.domain ↔ '@' ∉ o.domain) ∧
          Template.expand scope (E.transaction r name) "%{s}".toList =
            Template.expand scope (E.transaction r name) "%{l}@%{o}".toList := by
  intro o
  obtain ⟨domain, hnormal, hdomain, hsender⟩ := answer_sender h
  obtain ⟨c, rest, hlocal, hc⟩ := Mailbox.exists_localPart_eq_cons i.sender
  let m : Mailbox := ⟨(Mailbox.ofSender i.sender).localPart, domain⟩
  have hm : m.localPart = c :: rest := hlocal
  have hunblank : ∀ d ∈ m.domain, Text.isBlank d = false := DomainName.normalize_unblank hnormal
  rw [show o.sender = m.text from hsender, show o.domain = m.domain from hdomain]
  refine ⟨Mailbox.ofSender_text_iff hm hc hunblank, fun r hr scope name => ⟨?_, ?_⟩⟩
  · have hmailbox : (E.transaction r name).mailbox = Mailbox.ofSender m.text := congrArg Mailbox.ofSender hr
    rw [Template.expand_senderDomain, hmailbox, Except.ok.injEq]
    exact Mailbox.domain_ofSender_text_iff hm hc hunblank
  · have hmailbox : (E.transaction r name).mailbox = Mailbox.ofSender m.text := congrArg Mailbox.ofSender hr
    rw [Template.expand_sender, Template.expand_mailbox, hmailbox]
    exact congrArg Except.ok (hr.trans (Mailbox.exists_ofSender_text hm hc hunblank).1.symm)

/-- A domain passes if the domain of the sender has an address, and one domain has. -/
def sentByDomain : (q : Query) → Answer q
  | .txt _ => .ok ["v=spf1 exists:%{o} -all".toList]
  | .a name => if name = "b.example".toList then .ok [⟨0x7F000002⟩] else .error .noSuchDomain
  | _ => .error .noSuchDomain

/-- A quoted local part with an at sign of its own is kept, and the domain is found in capitals and with a dot. -/
theorem answer_sender_iff_quoted :
    let E : Engine Unit := ⟨.fixed sentByDomain, {}, 0⟩
    let i : Inquiry := .text " \"a@a\"@B.Example. ".toList "192.0.2.1".toList
    let o := (E.answer () i).1
    o.verdict = .pass ∧ '@' ∉ o.domain ∧ o.domain = "b.example".toList ∧
      Mailbox.ofSender o.sender = ⟨"\"a@a\"".toList, "b.example".toList⟩ := by
  intro E i o
  have hverdict : o.verdict = .pass := by decide +kernel
  have hdomain : o.domain = "b.example".toList := by decide +kernel
  have hclean : '@' ∉ o.domain := by
    rw [hdomain]
    decide
  have hvalid : o.verdict ≠ .invalid := by
    rw [hverdict]
    decide
  obtain ⟨hparts, -⟩ := answer_sender_iff E () i hvalid
  refine ⟨hverdict, hclean, hdomain, ?_⟩
  rw [hparts.mpr hclean, hdomain]
  rfl

/-- A full-width at sign in the domain becomes an at sign. The policy of the domain is evaluated, but its templates have
the first label of that domain in the local part, and so what passes is another domain. -/
theorem answer_sender_fullWidth :
    let E : Engine Unit := ⟨.fixed sentByDomain, {}, 0⟩
    let i : Inquiry := .text "user@a\uff20b.example".toList "192.0.2.1".toList
    let o := (E.answer () i).1
    o.verdict = .pass ∧ o.domain = "a@b.example".toList ∧ o.sender = "user@a@b.example".toList ∧
      Mailbox.ofSender i.sender = ⟨"user".toList, "a\uff20b.example".toList⟩ ∧
      Mailbox.ofSender o.sender = ⟨"user@a".toList, "b.example".toList⟩ ∧
      Mailbox.ofSender o.sender ≠ ⟨(Mailbox.ofSender i.sender).localPart, o.domain⟩ ∧
      (E.answer () i).2.queries = [.txt "a@b.example".toList, .a "b.example".toList] := by
  decide +kernel

end Engine

end SenderPolicy
