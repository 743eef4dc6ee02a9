import SenderPolicy.Evaluation.Targets
import SenderPolicy.Proofs.Course
import SenderPolicy.Proofs.Templates

/-!
# Where targets lead

A target mixes what its author wrote with what the client chose, of any length and with any dots. If it ends in a name
that was written out, the domain it leads to is that name or lies below it (`expandDomain_isUnder`): only dots behind
the name are dropped, and truncation stops at the dot before it, because the name fits.
-/

namespace SenderPolicy

variable {s t u top : Text}

/-! ## Leading labels -/

namespace DomainName

/-- The name is the top, or ends in a dot and the top. -/
def IsUnder (top name : Text) : Prop :=
  name = top ∨ ∃ below, name = below ++ '.' :: top

/-- Names in small letters lie below each other as the names do. -/
lemma IsUnder.lower (h : IsUnder top t) : IsUnder (Text.lower top) (Text.lower t) := by
  rcases h with rfl | ⟨below, rfl⟩
  · exact .inl rfl
  · refine .inr ⟨Text.lower below, ?_⟩
    rw [Text.lower, Text.lower, Text.lower, List.map_append, List.map_cons]
    rfl

/-- A name that fits is not truncated. -/
lemma truncate_of_le (h : Text.byteLength t ≤ maxLength) : truncate t = t := by
  rw [truncate, if_pos h]

/-- A name that is too long loses its first label. -/
lemma truncate_append (hlong : maxLength < Text.byteLength (s ++ '.' :: t)) (hs : '.' ∉ s) :
    truncate (s ++ '.' :: t) = truncate t := by
  have hcut : (s ++ '.' :: t).dropWhile (· != '.') = '.' :: t := by
    rw [List.dropWhile_append_of_pos fun c hc => ?_]
    · exact List.dropWhile_cons_of_neg (by decide)
    · exact bne_iff_ne.mpr fun hdot => hs (hdot ▸ hc)
  rw [truncate, if_neg (Nat.not_le.mpr hlong)]
  split
  · next hnil => rw [hcut] at hnil; cases hnil
  · next hrest => rw [hcut] at hrest; cases hrest; rfl

/-- A name that fits is not cut off from below, however much stands before it. -/
theorem isUnder_truncate (htop : Text.byteLength top ≤ maxLength) (front : Text) :
    IsUnder top (truncate (front ++ '.' :: top)) := by
  -- each turn drops a label of the front, so the front gets shorter until none is left
  induction hn : front.length using Nat.strong_induction_on generalizing front with
  | _ n ih =>
    by_cases hfits : Text.byteLength (front ++ '.' :: top) ≤ maxLength
    · rw [truncate_of_le hfits]
      exact .inr ⟨front, rfl⟩
    · have hlong := Nat.not_le.mp hfits
      by_cases hdot : '.' ∈ front
      · obtain ⟨label, rest, rfl, hlabel⟩ := List.eq_append_cons_of_mem hdot
        rw [List.append_assoc, List.cons_append] at hlong ⊢
        rw [truncate_append hlong hlabel]
        refine ih rest.length ?_ rest rfl
        rw [← hn, List.length_append, List.length_cons]
        omega
      · rw [truncate_append hlong hdot, truncate_of_le htop]
        exact .inl rfl

end DomainName

namespace Engine

variable {σ : Type} (E : Engine σ)

/-- A target is expanded for some name of the client, or for none. -/
lemma exists_expandDomain_eq (r : Request) (target : Text) (s : Session σ) :
    ∃ name, ((E.expandDomain r target).runFrom s).1 =
      (Template.expand .domain (E.transaction r name) target).map domainOfExpansion := by
  rw [expandDomain, expand]
  split
  · exact ⟨((E.validatedName r).runFrom s).1, rfl⟩
  · exact ⟨none, rfl⟩

/-- A text that ends in a written name, perhaps with a dot after it, leads to the name or below it. -/
lemma isUnder_domainOfExpansion {tail : Text} (hne : top ≠ []) (hdot : top.getLast? ≠ some '.')
    (hfits : Text.byteLength top ≤ DomainName.maxLength) (htail : tail = [] ∨ tail = ['.']) (front : Text) :
    DomainName.IsUnder (Text.lower top) (domainOfExpansion (front ++ '.' :: top ++ tail)) := by
  have hdrop : Text.dropDots (front ++ '.' :: top) = front ++ '.' :: top := by
    refine Text.dropDots_of_getLast?_ne ?_
    rwa [List.getLast?_append_of_ne_nil _ (List.cons_ne_nil '.' top), List.getLast?_cons_of_ne_nil hne]
  have htarget : Text.dropDots (front ++ '.' :: top ++ tail) = front ++ '.' :: top := by
    rcases htail with rfl | rfl
    · rw [List.append_nil, hdrop]
    · rw [Text.dropDots_append_dot, hdrop]
  rw [domainOfExpansion, htarget]
  exact (DomainName.isUnder_truncate hfits front).lower

/-- A target that ends in a written name leads to that name or below it, whatever stands for its expressions. -/
theorem expandDomain_isUnder (r : Request) (s : Session σ) {front top tail : Text}
    (hfront : Template.check .domain front = .ok ()) (hne : top ≠ []) (hpercent : '%' ∉ top)
    (hdot : top.getLast? ≠ some '.') (hfits : Text.byteLength top ≤ 253) (htail : tail = [] ∨ tail = ['.']) :
    (∀ name, ∃ domain, (Template.expand .domain (E.transaction r name) (front ++ '.' :: top ++ tail)).map
        domainOfExpansion = .ok domain ∧ DomainName.IsUnder (Text.lower top) domain) ∧
      ∃ domain, ((E.expandDomain r (front ++ '.' :: top ++ tail)).runFrom s).1 = .ok domain ∧
        DomainName.IsUnder (Text.lower top) domain := by
  have hrest : '%' ∉ '.' :: top ++ tail := by
    rcases htail with rfl | rfl <;> simp [hpercent]
  have hname : ∀ name, ∃ domain, (Template.expand .domain (E.transaction r name) (front ++ '.' :: top ++ tail)).map
      domainOfExpansion = .ok domain ∧ DomainName.IsUnder (Text.lower top) domain := by
    intro name
    obtain ⟨p, hp, -⟩ := exists_of_map_eq_ok hfront
    have hexpand : Template.expand .domain (E.transaction r name) front =
        .ok (Template.render (E.transaction r name) p) := by
      rw [Template.expand, hp]
      rfl
    rw [List.append_assoc, Template.expand_append_of_notMem hexpand hrest]
    refine ⟨_, rfl, ?_⟩
    rw [← List.append_assoc]
    exact isUnder_domainOfExpansion hne hdot hfits htail _
  obtain ⟨name, hrun⟩ := E.exists_expandDomain_eq r (front ++ '.' :: top ++ tail) s
  exact ⟨hname, hrun ▸ hname name⟩

/-- A local part that spells out a domain of the sender's choice, and dots behind it, is only put below the name that
the target ends in. -/
theorem expandDomain_isUnder_localPart :
    let E : Engine Unit := ⟨.fixed fun _ => .ok [], {}, 0⟩
    let r : Request := ⟨"evil.example..@a.example".toList, "a.example".toList, .v4 ⟨1⟩, "h.example".toList, 0⟩
    let front := "%{l}%{h2r}".toList
    let top := "_SPF.b.example".toList
    (Template.check .domain front = .ok () ∧ top ≠ [] ∧ '%' ∉ top ∧ top.getLast? ≠ some '.' ∧
      Text.byteLength top ≤ 253) ∧
      ((E.expandDomain r (front ++ '.' :: top ++ ['.'])).runFrom (.start (.fresh 10 2) ())).1 =
        .ok "evil.example..example.h._spf.b.example".toList ∧
      ∃ domain, ((E.expandDomain r (front ++ '.' :: top ++ ['.'])).runFrom (.start (.fresh 10 2) ())).1 = .ok domain ∧
        DomainName.IsUnder (Text.lower top) domain := by
  intro E r front top
  have hfront : Template.check .domain front = .ok () := by decide +kernel
  have hfits : Text.byteLength top ≤ 253 := by decide +kernel
  refine ⟨⟨hfront, by decide, by decide, by decide, hfits⟩, by decide +kernel, ?_⟩
  exact (E.expandDomain_isUnder r _ hfront (by decide) (by decide) (by decide) hfits (.inr rfl)).2

end Engine

end SenderPolicy
