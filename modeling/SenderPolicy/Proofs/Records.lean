import Mathlib.Data.List.Sort
import Mathlib.Tactic.Lemma
import SenderPolicy.Dns.Query
import SenderPolicy.Policy.Selection
import SenderPolicy.Sorting

/-!
# Records in any order

What is made of the records of an answer does not depend on the order in which they are listed: the policy found among
texts (`Policy.ofAnswers_eq_of_perm`), the addresses that cover a client, and the exchanges once they are sorted
(`Sorting.sort_eq_of_perm`), because their order is total and puts only equal exchanges in the same place.

`Akin` says that two findings tell the same, up to a relation of their lists.
-/

namespace SenderPolicy

/-! ## The order of exchanges -/

namespace Text

/-- Texts are compared by their first characters, and by what follows if those are the same. -/
lemma isUpTo_cons {a b : Char} {s t : Text} :
    isUpTo (a :: s) (b :: t) = true ↔ a.toNat < b.toNat ∨ a = b ∧ isUpTo s t = true := by
  simp [isUpTo]

/-- Any two texts are in order one way or the other. -/
lemma isUpTo_total (s t : Text) : isUpTo s t = true ∨ isUpTo t s = true := by
  induction s generalizing t with
  | nil => exact .inl rfl
  | cons a s ih =>
    cases t with
    | nil => exact .inr rfl
    | cons b t =>
      rw [isUpTo_cons, isUpTo_cons]
      rcases Nat.lt_trichotomy a.toNat b.toNat with h | h | h
      · exact .inl (.inl h)
      · obtain rfl := Char.toNat_inj.mp h
        exact (ih t).imp (fun hst => .inr ⟨rfl, hst⟩) fun hts => .inr ⟨rfl, hts⟩
      · exact .inr (.inl h)

/-- The order of texts is transitive. -/
lemma isUpTo_trans {s t u : Text} (hst : isUpTo s t = true) (htu : isUpTo t u = true) : isUpTo s u = true := by
  induction s generalizing t u with
  | nil => rfl
  | cons a s ih =>
    cases t with
    | nil => cases hst
    | cons b t =>
      cases u with
      | nil => cases htu
      | cons c u =>
        rw [isUpTo_cons] at hst htu ⊢
        rcases hst with hab | ⟨rfl, hst⟩
        · rcases htu with hbc | ⟨rfl, -⟩
          · exact .inl (hab.trans hbc)
          · exact .inl hab
        · exact htu.imp_right fun ⟨hac, htu⟩ => ⟨hac, ih hst htu⟩

/-- Texts that come before each other are the same. -/
lemma isUpTo_antisymm {s t : Text} (hst : isUpTo s t = true) (hts : isUpTo t s = true) : s = t := by
  induction s generalizing t with
  | nil =>
    cases t with
    | nil => rfl
    | cons b t => cases hts
  | cons a s ih =>
    cases t with
    | nil => cases hst
    | cons b t =>
      rw [isUpTo_cons] at hst hts
      rcases hst with hab | ⟨rfl, hst⟩
      · rcases hts with hba | ⟨rfl, -⟩
        · omega
        · omega
      · rcases hts with haa | ⟨-, hts⟩
        · omega
        · rw [ih hst hts]

end Text

namespace Exchange

/-- Exchanges are in order by preference, and by name if that is the same. -/
lemma before_iff {a b : Exchange} :
    before a b = true ↔
      a.preference < b.preference ∨ a.preference = b.preference ∧ Text.isUpTo a.name b.name = true := by
  simp [before]

instance : Std.Total fun a b : Exchange => before a b = true where
  total a b := by
    rw [before_iff, before_iff]
    rcases Nat.lt_trichotomy a.preference b.preference with h | h | h
    · exact .inl (.inl h)
    · exact (Text.isUpTo_total a.name b.name).imp (fun hn => .inr ⟨h, hn⟩) fun hn => .inr ⟨h.symm, hn⟩
    · exact .inr (.inl h)

instance : IsTrans Exchange fun a b => before a b = true where
  trans a b c hab hbc := by
    rw [before_iff] at hab hbc ⊢
    rcases hab with hab | ⟨hab, hn⟩
    · exact .inl (by omega)
    · rcases hbc with hbc | ⟨hbc, hn'⟩
      · exact .inl (by omega)
      · exact .inr ⟨hab.trans hbc, Text.isUpTo_trans hn hn'⟩

/-- Exchanges that come before each other are the same. -/
instance : Std.Antisymm fun a b : Exchange => before a b = true where
  antisymm a b hab hba := by
    rw [before_iff] at hab hba
    obtain ⟨hpreference, hab⟩ := hab.resolve_left (by omega)
    obtain ⟨-, hba⟩ := hba.resolve_left (by omega)
    cases a
    cases b
    exact congr (congrArg Exchange.mk hpreference) (Text.isUpTo_antisymm hab hba)

end Exchange

namespace Sorting

variable {α : Type} {before : α → α → Bool}

/-- Insertion into a sorted list is that of the library. -/
lemma insert_eq_orderedInsert (x : α) (l : List α) : insert before x l = l.orderedInsert (before · ·) x := by
  induction l with
  | nil => rfl
  | cons y ys ih => rw [insert, List.orderedInsert_cons, ih]

/-- Sorting is the insertion sort of the library. -/
lemma sort_eq_insertionSort (l : List α) : sort before l = l.insertionSort (before · ·) := by
  induction l with
  | nil => rfl
  | cons x xs ih => rw [sort, List.insertionSort_cons, ih, insert_eq_orderedInsert]

/-- A sorted list is in order. -/
lemma pairwise_sort [Std.Total fun a b => before a b = true] [IsTrans α fun a b => before a b = true] (l : List α) :
    (sort before l).Pairwise (before · ·) := by
  rw [sort_eq_insertionSort]
  exact List.pairwise_insertionSort _ l

/-- An order that tells all items apart leaves one way to sort them. -/
lemma sort_eq_of_perm [Std.Total fun a b => before a b = true] [IsTrans α fun a b => before a b = true]
    [Std.Antisymm fun a b => before a b = true] {l m : List α} (h : l.Perm m) : sort before l = sort before m :=
  ((sort_perm before l).trans (h.trans (sort_perm before m).symm)).eq_of_pairwise' (pairwise_sort l) (pairwise_sort m)

end Sorting

/-! ## Texts and addresses -/

namespace Policy

/-- Of one policy there is one list only, and of more than one only their number is told. -/
lemma select_eq_of_perm {l m : List Text} (h : l.Perm m) : select l = select m := by
  have hfound : ((l.map Text.trim).filter isPolicyText).Perm ((m.map Text.trim).filter isPolicyText) :=
    (h.map Text.trim).filter isPolicyText
  rw [select, select]
  generalize (l.map Text.trim).filter isPolicyText = found at hfound ⊢
  generalize (m.map Text.trim).filter isPolicyText = found' at hfound ⊢
  rcases found with _ | ⟨t, _ | ⟨u, ts⟩⟩
  · obtain rfl := List.nil_perm.mp hfound
    rfl
  · obtain rfl := List.singleton_perm.mp hfound
    rfl
  · have hlength := hfound.length_eq
    rcases found' with _ | ⟨t', _ | ⟨u', ts'⟩⟩
    · cases hlength
    · cases hlength
    · exact congrArg (fun n => Except.error (PolicyError.multipleRecords n)) hlength

/-- The policy that is found among texts does not depend on their order. -/
lemma ofAnswers_eq_of_perm {l m : List Text} (h : l.Perm m) : ofAnswers l = ofAnswers m := by
  rw [ofAnswers, ofAnswers, select_eq_of_perm h]

end Policy

/-- Whether a client is covered does not depend on the order of the addresses. -/
lemma Lengths.coverAny_eq_of_perm (lengths : Lengths) {l m : List Address} (h : l.Perm m) (client : Address) :
    lengths.coverAny l client = lengths.coverAny m client :=
  h.any_eq

/-! ## Findings -/

/-- Findings of two lookups that tell the same: related lists, where the list of a name that does not exist is empty, or
the same failure. -/
inductive Akin {α : Type} (L : List α → List α → Prop) :
    Except DnsError (List α) → Except DnsError (List α) → Prop where
  | found {l m} : L l m → Akin L (.ok l) (.ok m)
  | absent : Akin L (.error .noSuchDomain) (.ok [])
  | failed (e : DnsError) : Akin L (.error e) (.error e)

/-- Lists of records in another order. Reverse names are in the same order, because only the first few are looked at. -/
def Query.Rearranged : (q : Query) → List q.Value → List q.Value → Prop
  | .ptr _, l, m => l = m
  | .txt _, l, m => l.Perm m
  | .a _, l, m => l.Perm m
  | .aaaa _, l, m => l.Perm m
  | .mx _, l, m => l.Perm m

/-- Records are a rearrangement of themselves. -/
lemma Query.Rearranged.refl (q : Query) (l : List q.Value) : q.Rearranged l l := by
  cases q with
  | ptr address => rfl
  | txt name | a name | aaaa name | mx name => exact List.Perm.refl l

/-- Equal records are rearranged. -/
lemma Query.Rearranged.of_eq {q : Query} {l m : List q.Value} (h : l = m) : q.Rearranged l m :=
  h ▸ .refl q l

namespace Akin

variable {α β : Type} {L L' : List α → List α → Prop} {x y : Except DnsError (List α)}

/-- A finding tells the same as itself. -/
lemma refl (hL : ∀ l, L l l) : ∀ x, Akin L x x
  | .ok l => .found (hL l)
  | .error e => .failed e

/-- Equal findings tell the same. -/
lemma of_eq (h : x = y) : Akin Eq x y :=
  h ▸ .refl (fun _ => rfl) x

/-- Findings that tell the same up to one relation do so up to a weaker one. -/
lemma mono (hL : ∀ {l m}, L l m → L' l m) (h : Akin L x y) : Akin L' x y := by
  cases h with
  | found h => exact .found (hL h)
  | absent => exact .absent
  | failed e => exact .failed e

/-- Findings in another order are mapped to findings in another order. -/
lemma map (f : α → β) {x y : Except DnsError (List α)} (h : Akin List.Perm x y) :
    Akin List.Perm (x.map (List.map f)) (y.map (List.map f)) := by
  cases h with
  | found h => exact .found (h.map f)
  | absent => exact .absent
  | failed e => exact .failed e

/-- Equal answers tell the same. -/
lemma of_answer_eq {q : Query} {a b : Answer q} (h : a = b) : Akin q.Rearranged a b :=
  h ▸ .refl (.refl q) a

/-- The records of akin answers are related, or missing for the same failure. -/
lemma records {q : Query} {a b : Answer q} (h : Akin q.Rearranged a b) :
    (∃ l m, a.records = .ok l ∧ b.records = .ok m ∧ q.Rearranged l m) ∨
      ∃ e, a.records = .error e ∧ b.records = .error e := by
  cases h with
  | @found l m h => exact .inl ⟨l, m, rfl, rfl, h⟩
  | absent => exact .inl ⟨[], [], rfl, rfl, .refl q []⟩
  | failed e =>
    cases e with
    | noSuchDomain => exact .inl ⟨[], [], rfl, rfl, .refl q []⟩
    | timeout | serverFailure | refused | other reason => exact .inr ⟨_, rfl, rfl⟩

end Akin

end SenderPolicy
