import SenderPolicy.Evaluation.Matching
import SenderPolicy.Proofs.Course

/-!
# Networks

A network covers the addresses that agree with it on the leading bits that count (`Network.Agree`), which are those from
its first address to its last (`Network.covers_iff_between`). Mechanisms that look addresses up compare them with the
client as the mechanisms do that name a network: they match exactly if some address that is found would match as the
network of such a mechanism (`Engine.matchesClient_iff_agree`).
-/

namespace SenderPolicy

namespace Network

variable {w length : Nat} {a b c : BitVec w}

/-- The addresses have the same leading bits, as many as are told but no more than there are. -/
def Agree (length : Nat) (a b : BitVec w) : Prop :=
  ∀ i < min length w, a.getMsbD i = b.getMsbD i

namespace Agree

/-- An address agrees with itself. -/
lemma refl (length : Nat) (a : BitVec w) : Agree length a a :=
  fun _ _ => rfl

/-- Agreement goes both ways. -/
lemma symm (h : Agree length a b) : Agree length b a :=
  fun i hi => (h i hi).symm

/-- Addresses that agree with the same one agree with each other. -/
lemma trans (h : Agree length a b) (h' : Agree length b c) : Agree length a c :=
  fun i hi => (h i hi).trans (h' i hi)

/-- Addresses that have many leading bits in common have fewer in common, too. -/
lemma mono {shorter : Nat} (h : Agree length a b) (hle : shorter ≤ length) : Agree shorter a b :=
  fun i hi => h i (by omega)

end Agree

/-- A network covers the addresses that agree with it, which its shifted bits tell. -/
lemma covers_iff_agree : covers a length b = true ↔ Agree length a b := by
  rw [covers_iff]
  refine ⟨fun h i hi => h i (by omega), fun h i hi => ?_⟩
  by_cases hw : i < w
  · exact h i (by omega)
  · -- there are no bits beyond the width
    rw [BitVec.getMsbD_of_ge a i (by omega), BitVec.getMsbD_of_ge b i (by omega)]

/-- Agreement with a network decides whether it covers an address, on either side. -/
lemma covers_congr {a' b' : BitVec w} (ha : Agree length a a') (hb : Agree length b b') :
    covers a length b = covers a' length b' := by
  rw [Bool.eq_iff_iff, covers_iff_agree, covers_iff_agree]
  exact ⟨fun h => ha.symm.trans (h.trans hb), fun h => ha.trans (h.trans hb.symm)⟩

/-! ## Ranges -/

/-- The word with the bits set that count. -/
def mask (w length : Nat) : BitVec w :=
  BitVec.allOnes w <<< (w - length)

/-- The first address of the network around an address. -/
def first (a : BitVec w) (length : Nat) : BitVec w :=
  a &&& mask w length

/-- The last address of the network around an address. -/
def last (a : BitVec w) (length : Nat) : BitVec w :=
  a ||| ~~~mask w length

/-- The bits that count are the high ones, as many as the length. -/
lemma getLsbD_mask {i : Nat} (hi : i < w) : (mask w length).getLsbD i = decide (w - length ≤ i) := by
  have hlow : i - (w - length) < w := by omega
  rw [mask, BitVec.getLsbD_shiftLeft, BitVec.getLsbD_allOnes]
  simp only [hi, hlow, decide_true, Bool.true_and, Bool.and_true, ← decide_not, Nat.not_lt]

/-- Addresses that differ only in bits that do not count are the same when those are shifted out. -/
lemma shifted_eq (h : ∀ i < w, w - length ≤ i → a.getLsbD i = b.getLsbD i) :
    a >>> (w - length) = b >>> (w - length) := by
  refine BitVec.eq_of_getLsbD_eq fun i _ => ?_
  rw [BitVec.getLsbD_ushiftRight, BitVec.getLsbD_ushiftRight]
  by_cases hi : w - length + i < w
  · exact h _ hi (Nat.le_add_right _ _)
  · rw [BitVec.getLsbD_of_ge a _ (Nat.le_of_not_lt hi), BitVec.getLsbD_of_ge b _ (Nat.le_of_not_lt hi)]

/-- The first address of a network has the bits that count of any in it. -/
lemma first_shifted (a : BitVec w) (length : Nat) : first a length >>> (w - length) = a >>> (w - length) :=
  shifted_eq fun i hi hcounts => by
    rw [first, BitVec.getLsbD_and, getLsbD_mask hi, decide_eq_true hcounts, Bool.and_true]

/-- The last address of a network has the bits that count of any in it. -/
lemma last_shifted (a : BitVec w) (length : Nat) : last a length >>> (w - length) = a >>> (w - length) :=
  shifted_eq fun i hi hcounts => by
    rw [last, BitVec.getLsbD_or, BitVec.getLsbD_not, getLsbD_mask hi, decide_eq_true hcounts, Bool.not_true,
      Bool.and_false, Bool.or_false]

/-- A shift to the right keeps the order of words. -/
lemma shifted_le {k : Nat} (h : a ≤ b) : a >>> k ≤ b >>> k := by
  rw [BitVec.le_def] at h ⊢
  rw [BitVec.toNat_ushiftRight, BitVec.toNat_ushiftRight, Nat.shiftRight_eq_div_pow, Nat.shiftRight_eq_div_pow]
  exact Nat.div_le_div_right h

/-- No address lies before the first one of the network around it. -/
lemma first_le (a : BitVec w) (length : Nat) : first a length ≤ a := by
  rw [first, BitVec.le_def, BitVec.toNat_and]
  exact Nat.and_le_left

/-- No address lies after the last one of the network around it. -/
lemma le_last (a : BitVec w) (length : Nat) : a ≤ last a length := by
  rw [last, BitVec.le_def, BitVec.toNat_or]
  exact Nat.left_le_or

/-- Networks around addresses with the same bits that count have the same ends. -/
lemma ends_eq (h : a >>> (w - length) = b >>> (w - length)) :
    first a length = first b length ∧ last a length = last b length := by
  have hbits : ∀ i, w - length ≤ i → a.getLsbD i = b.getLsbD i := by
    intro i hi
    have hbit := congrArg (·.getLsbD (i - (w - length))) h
    simp only [BitVec.getLsbD_ushiftRight, Nat.add_sub_cancel' hi] at hbit
    exact hbit
  refine ⟨BitVec.eq_of_getLsbD_eq fun i hi => ?_, BitVec.eq_of_getLsbD_eq fun i hi => ?_⟩
  · rw [first, first, BitVec.getLsbD_and, BitVec.getLsbD_and, getLsbD_mask hi]
    by_cases hcounts : w - length ≤ i
    · rw [hbits i hcounts]
    · rw [decide_eq_false hcounts, Bool.and_false, Bool.and_false]
  · rw [last, last, BitVec.getLsbD_or, BitVec.getLsbD_or, BitVec.getLsbD_not, getLsbD_mask hi]
    by_cases hcounts : w - length ≤ i
    · rw [hbits i hcounts]
    · rw [decide_eq_false hcounts, decide_eq_true hi, Bool.not_false, Bool.and_true, Bool.or_true, Bool.or_true]

/-- A network covers the addresses from its first to its last one. -/
lemma covers_iff_between : covers a length b = true ↔ first a length ≤ b ∧ b ≤ last a length := by
  rw [covers, beq_iff_eq]
  constructor
  · intro h
    obtain ⟨hfirst, hlast⟩ := ends_eq h
    rw [hfirst, hlast]
    exact ⟨first_le b length, le_last b length⟩
  · rintro ⟨hfirst, hlast⟩
    have hle := shifted_le (k := w - length) hfirst
    have hge := shifted_le (k := w - length) hlast
    rw [first_shifted] at hle
    rw [last_shifted] at hge
    exact BitVec.le_antisymm hle hge

end Network

/-! ## Addresses of either family -/

/-- The addresses are of one family and agree on the leading bits; each family has its own length. -/
def Address.Agree (length4 length6 : Nat) : Address → Address → Prop
  | .v4 a, .v4 b => Network.Agree length4 a.bits b.bits
  | .v6 a, .v6 b => Network.Agree length6 a.bits b.bits
  | _, _ => False

/-- A network covers a client if they are of one family and agree on the length for it. -/
lemma Network.coversEither_iff_agree (network : Address) (length4 length6 : Nat) (client : Address) :
    coversEither network length4 length6 client = true ↔ network.Agree length4 length6 client := by
  cases network with
  | v4 a =>
    cases client with
    | v4 b => exact covers_iff_agree
    | v6 b => exact iff_of_false nofun id
  | v6 a =>
    cases client with
    | v4 b => exact iff_of_false nofun id
    | v6 b => exact covers_iff_agree

/-- The mechanism that names the network around an address, with the length for its family. -/
def Lengths.literal (l : Lengths) : Address → Mechanism
  | .v4 a => .ip4 a l.v4
  | .v6 a => .ip6 a l.v6

namespace Engine

variable {σ : Type} (E : Engine σ) (nested : Request → Check σ Evaluation) (r : Request) (l : Lengths)

/-- A mechanism that names a network matches without asking anyone or charging a lookup. -/
lemma matchesClient_literal (a : Address) :
    E.matchesClient nested r (l.literal a) = pure (Network.coversEither a l.length4 l.length6 r.client) := by
  cases a with
  | v4 a => rfl
  | v6 a => rfl

/-- The addresses of a name are compared with the client one by one, each as the network that a mechanism names. -/
lemma nearName_eq (name : Text) :
    E.nearName name l r.client =
      E.countedAddresses name r.client >>= List.anyM fun a => E.matchesClient nested r (l.literal a) := by
  simp only [matchesClient_literal]
  rw [nearName]
  refine bind_congr fun found => ?_
  rw [List.anyM_pure]
  rfl

/-- The exchanges are tried one by one, each for a lookup. -/
lemma nearExchange_eq (client : Address) (xs : List Exchange) :
    E.nearExchange l client xs = xs.anyM fun x => Check.charge >>= fun _ => E.nearName x.name l client := by
  induction xs with
  | nil => rfl
  | cons x xs ih =>
    rw [nearExchange, List.anyM_cons, ih]
    simp only [bind_assoc]

/-- Some address of a list is near the client exactly if the network around some address of it is named by a mechanism
that matches. -/
lemma coverAny_iff_literal (addresses : List Address) (s : Session σ) :
    l.coverAny addresses r.client = true ↔
      ∃ a ∈ addresses, (E.matchesClient nested r (l.literal a)).runFrom s = (.ok true, s) := by
  simp only [Lengths.coverAny, List.any_eq_true, matchesClient_literal, Check.runFrom_pure, Prod.mk.injEq, and_true,
    Except.ok.injEq]

/-- A network covers an address exactly if the two agree on their leading bits, as many as are told but no more than
there are: these are the addresses from the first to the last one of the network. So a network covers the address that
it is told by, a shorter length covers more, and bits that do not count never matter. A mechanism that names a network
matches just so, and never a client of the other family. What mechanisms that look addresses up find is near the client
exactly if some such mechanism, around an address that was found, matches the client: they try these one by one. -/
theorem matchesClient_iff_agree :
    (∀ {w : Nat} (network client : BitVec w) (length : Nat),
        (Network.covers network length client = true ↔
          ∀ i < min length w, network.getMsbD i = client.getMsbD i) ∧
        (Network.covers network length client = true ↔
          Network.first network length ≤ client ∧ client ≤ Network.last network length) ∧
        Network.covers network length network = true ∧
        (∀ shorter ≤ length, Network.covers network length client = true →
          Network.covers network shorter client = true) ∧
        ∀ network' client', Network.Agree length network network' → Network.Agree length client client' →
          Network.covers network length client = Network.covers network' length client') ∧
      (∀ (l : Lengths) (a : Address) (s : Session σ), ∃ matched,
        (E.matchesClient nested r (l.literal a)).runFrom s = (.ok matched, s) ∧
          (matched = true ↔ a.Agree l.length4 l.length6 r.client)) ∧
      (∀ (a : V4) (b : V6) (l : Lengths),
        l.coverAny [.v4 a] (.v6 b) = false ∧ l.coverAny [.v6 b] (.v4 a) = false) ∧
      (∀ (l : Lengths) (addresses : List Address) (s : Session σ), l.coverAny addresses r.client = true ↔
        ∃ a ∈ addresses, (E.matchesClient nested r (l.literal a)).runFrom s = (.ok true, s)) ∧
      ∀ (l : Lengths),
        let near name := E.countedAddresses name r.client >>= List.anyM fun a => E.matchesClient nested r (l.literal a)
        (∀ target, E.matchesClient nested r (.a target l) =
          Check.charge >>= fun _ => E.domainOrOwn r target >>= near) ∧
        ∀ xs, E.nearExchange l r.client xs = xs.anyM fun x => Check.charge >>= fun _ => near x.name := by
  refine ⟨fun network client length => ⟨Network.covers_iff_agree, Network.covers_iff_between, ?_, ?_, ?_⟩,
    fun l a s => ?_, fun a b l => ⟨rfl, rfl⟩, fun l addresses s => E.coverAny_iff_literal nested r l addresses s,
    fun l => ⟨?_, ?_⟩⟩
  · exact Network.covers_iff_agree.mpr (.refl length network)
  · intro shorter hle h
    exact Network.covers_iff_agree.mpr ((Network.covers_iff_agree.mp h).mono hle)
  · intro network' client' hnetwork hclient
    exact Network.covers_congr hnetwork hclient
  · rw [matchesClient_literal, Check.runFrom_pure]
    exact ⟨_, rfl, Network.coversEither_iff_agree a l.length4 l.length6 r.client⟩
  · intro target
    simp only [← nearName_eq]
    rfl
  · intro xs
    simp only [← nearName_eq]
    exact E.nearExchange_eq l r.client xs

end Engine

/-- Bits that do not count are told in vain, and a length beyond the width is the width. -/
example : Network.covers4 (.ofOctets 192 0 2 77) 24 (.v4 (.ofOctets 192 0 2 1)) = true ∧
    Network.covers4 (.ofOctets 192 0 2 77) 99 (.v4 (.ofOctets 192 0 2 1)) = false ∧
    Network.covers4 (.ofOctets 192 0 2 77) 0 (.v4 (.ofOctets 10 1 2 3)) = true := by
  decide

end SenderPolicy
