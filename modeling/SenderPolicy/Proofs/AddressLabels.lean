import Mathlib.Algebra.Group.Nat.Defs
import SenderPolicy.Proofs.AddressText
import SenderPolicy.Proofs.Transformers

/-!
# Addresses as labels

Lists of addresses are kept in names that hold an address label by label, the least significant first, and a label for
its family. Such a name tells the address (`Address.ofReversed?_reversed`): the labels are its octets in decimal, or its
digits in hexadecimal with the zeros in front, and none of them holds a dot. So no two addresses share a name, be they
of one family or not.
-/

namespace SenderPolicy

open Transaction (family)

/-! ## Labels -/

namespace V4

/-- The octets in decimal, the most significant first. -/
def labels (a : V4) : List Text :=
  a.octets.map fun o => Text.ofNat o.toNat

/-- The address that octets in decimal spell. -/
def ofLabels? (ls : List Text) : Option V4 :=
  ofText? (Text.join ['.'] ls)

/-- An octet is a digit of the address to the base 256. -/
lemma toNat_octet (a : V4) (k : Nat) : (a.bits.extractLsb' (8 * k) 8).toNat = a.bits.toNat / 256 ^ k % 256 := by
  rw [BitVec.extractLsb'_toNat, Nat.shiftRight_eq_div_pow, Nat.pow_mul]

/-- The labels are the digits of the address to the base 256, each in decimal. -/
lemma labels_eq (a : V4) : a.labels = [3, 2, 1, 0].map fun k => Text.ofNat (a.bits.toNat / 256 ^ k % 256) := by
  have hoctets : a.octets = [3, 2, 1, 0].map fun k => a.bits.extractLsb' (8 * k) 8 := rfl
  rw [labels, hoctets, List.map_map]
  exact List.map_congr_left fun k _ => congrArg Text.ofNat (toNat_octet a k)

/-- An octet in decimal has no dot. -/
lemma dot_notMem_of_mem_labels {a : V4} {label : Text} (h : label ∈ a.labels) : '.' ∉ label := by
  obtain ⟨o, -, rfl⟩ := List.mem_map.mp h
  exact fun hdot => absurd (Text.isDigit_of_mem_ofNat hdot) (by decide)

/-- The octets in decimal spell the address that they are of. -/
lemma ofLabels?_labels (a : V4) : ofLabels? a.labels = some a :=
  ofText?_text a

end V4

namespace V6

variable {a : V6} {i k : Nat}

/-- The digits in hexadecimal, each by itself, the most significant first. -/
def labels (a : V6) : List Text :=
  a.nibbles.map fun n => [Text.hexDigit n.toNat]

/-- The address that thirty-two hexadecimal digits spell, each by itself. -/
def ofLabels? (ls : List Text) : Option V6 :=
  if ls.length = 32 ∧ ∀ label ∈ ls, label.length = 1 then
    (Text.hexNumber? ls.flatten).map fun n => ⟨BitVec.ofNat 128 n⟩
  else
    none

/-- A nibble is a digit of the address to the base 16. -/
lemma toNat_nibble (a : V6) (hi : i < 32) :
    (a.bits.extractLsb' (124 - 4 * i) 4).toNat = a.bits.toNat / 16 ^ (31 - i) % 16 := by
  have hplace : 124 - 4 * i = 4 * (31 - i) := by omega
  rw [BitVec.extractLsb'_toNat, Nat.shiftRight_eq_div_pow, hplace, Nat.pow_mul]

/-- The labels are the digits of the address to the base 16, the zeros in front among them. -/
lemma labels_eq (a : V6) :
    a.labels = (List.range 32).map fun i => [Text.hexDigit (a.bits.toNat / 16 ^ (31 - i) % 16)] := by
  rw [labels, nibbles, List.map_map]
  refine List.map_congr_left fun i hi => ?_
  rw [Function.comp_apply, toNat_nibble a (List.mem_range.mp hi)]

/-- The first digits are the number that is left when the others are taken off. -/
lemma hexNumber?_digits (a : V6) (hk : k ≤ 32) :
    Text.hexNumber? ((List.range k).map fun i => Text.hexDigit (a.bits.toNat / 16 ^ (31 - i) % 16)) =
      some (a.bits.toNat / 16 ^ (32 - k)) := by
  induction k with
  | zero =>
    have hsize : (16 : Nat) ^ (32 - 0) = 2 ^ 128 := by decide
    rw [hsize, Nat.div_eq_of_lt a.bits.isLt]
    rfl
  | succ k ih =>
    have hpow : 16 ^ (32 - k) = 16 ^ (31 - k) * 16 := by
      rw [← Nat.pow_succ]
      congr 1
      omega
    have hlt : a.bits.toNat / 16 ^ (31 - k) % 16 < 16 := Nat.mod_lt _ (by decide)
    have hdigit := Text.hexNumber?_append (ih (by omega)) hlt
    rw [hpow, ← Nat.div_div_eq_div_mul, Nat.div_add_mod] at hdigit
    rw [List.range_succ, List.map_append, List.map_singleton, hdigit]
    congr 3
    omega

/-- A label is one digit, with a small letter if it has one. -/
lemma exists_of_mem_labels {label : Text} (h : label ∈ a.labels) :
    ∃ c ∈ "0123456789abcdef".toList, label = [c] := by
  have hall : ∀ n, n < 16 → Text.hexDigit n ∈ "0123456789abcdef".toList := by decide
  obtain ⟨n, -, rfl⟩ := List.mem_map.mp h
  exact ⟨Text.hexDigit n.toNat, hall n.toNat n.isLt, rfl⟩

/-- A hexadecimal digit is no dot. -/
lemma dot_notMem_of_mem_labels {label : Text} (h : label ∈ a.labels) : '.' ∉ label := by
  obtain ⟨c, hc, rfl⟩ := exists_of_mem_labels h
  intro hdot
  rw [← List.mem_singleton.mp hdot] at hc
  exact absurd hc (by decide)

/-- The digits spell the address that they are of. -/
lemma ofLabels?_labels (a : V6) : ofLabels? a.labels = some a := by
  have hone : ∀ label ∈ a.labels, label.length = 1 := by
    intro label h
    obtain ⟨c, -, rfl⟩ := exists_of_mem_labels h
    rfl
  have hnumber : Text.hexNumber? a.labels.flatten = some a.bits.toNat := by
    have hdigits := hexNumber?_digits a (k := 32) (Nat.le_refl 32)
    rw [Nat.sub_self, Nat.pow_zero, Nat.div_one] at hdigits
    rwa [labels_eq, ← List.flatMap_def, ← List.map_eq_flatMap]
  rw [ofLabels?, if_pos ⟨rfl, hone⟩, hnumber, Option.map_some, BitVec.ofNat_toNat, BitVec.setWidth_eq]

end V6

namespace Address

/-- The labels of an address of either family, the most significant first. -/
def labels : Address → List Text
  | .v4 a => a.labels
  | .v6 a => a.labels

/-- The address that labels spell, by the label for its family. -/
def ofLabels? (kind : Text) (ls : List Text) : Option Address :=
  if kind = "in-addr".toList then (V4.ofLabels? ls).map .v4
  else if kind = "ip6".toList then (V6.ofLabels? ls).map .v6
  else none

/-- The form with dots that templates fill in is that of the labels. -/
lemma dotted_eq (a : Address) : Transaction.dotted a = Text.join ['.'] a.labels := by
  cases a with
  | v4 a => rfl
  | v6 a => rfl

/-- An address of either family has labels. -/
lemma labels_ne_nil (a : Address) : a.labels ≠ [] := by
  cases a with
  | v4 a => exact List.cons_ne_nil _ _
  | v6 a => exact List.cons_ne_nil _ _

/-- No label of an address of either family has a dot. -/
lemma dot_notMem_of_mem_labels {a : Address} {label : Text} (h : label ∈ a.labels) : '.' ∉ label := by
  cases a with
  | v4 a => exact V4.dot_notMem_of_mem_labels h
  | v6 a => exact V6.dot_notMem_of_mem_labels h

/-- The label of a family has no dot. -/
lemma dot_notMem_family (a : Address) : '.' ∉ family a := by
  cases a with
  | v4 a => exact show '.' ∉ "in-addr".toList by decide
  | v6 a => exact show '.' ∉ "ip6".toList by decide

/-- Labels spell the address that they are of, given its family. -/
lemma ofLabels?_labels (a : Address) : ofLabels? (family a) a.labels = some a := by
  cases a with
  | v4 a =>
    have hlabels : (V4.ofLabels? a.labels).map v4 = some (v4 a) := by rw [V4.ofLabels?_labels, Option.map_some]
    exact (if_pos rfl).trans hlabels
  | v6 a =>
    have hlabels : (V6.ofLabels? a.labels).map v6 = some (v6 a) := by rw [V6.ofLabels?_labels, Option.map_some]
    have hne : "ip6".toList ≠ "in-addr".toList := by decide
    exact (if_neg hne).trans ((if_pos rfl).trans hlabels)

/-! ## The name of an address -/

/-- The labels of an address from the least significant on, and the label for its family. -/
def reversed (a : Address) : Text :=
  Text.join ['.'] (a.labels.reverse ++ [family a])

/-- The address that such a name tells. -/
def ofReversed? (name : Text) : Option Address :=
  match (Text.pieces (· == '.') name).reverse with
  | [] => none
  | kind :: ls => ofLabels? kind ls

/-- The labels are found again between the dots. -/
lemma pieces_labels (a : Address) : Text.pieces (· == '.') (Text.join ['.'] a.labels) = a.labels :=
  Text.pieces_join (fun _ h => dot_notMem_of_mem_labels h) a.labels_ne_nil

/-- The name of an address is cut into its labels, the least significant first, and that of the family. -/
lemma pieces_reversed (a : Address) : Text.pieces (· == '.') a.reversed = a.labels.reverse ++ [family a] := by
  refine Text.pieces_join (fun label h => ?_) (List.append_ne_nil_of_right_ne_nil _ (List.cons_ne_nil _ _))
  rcases List.mem_append.mp h with h | h
  · exact dot_notMem_of_mem_labels (List.mem_reverse.mp h)
  · rw [List.mem_singleton.mp h]
    exact dot_notMem_family a

/-- The name of an address tells the address. -/
lemma ofReversed?_reversed (a : Address) : ofReversed? a.reversed = some a := by
  rw [ofReversed?, pieces_reversed, List.reverse_append, List.reverse_reverse, List.reverse_singleton,
    List.singleton_append]
  exact ofLabels?_labels a

/-- No two addresses have one name, not even of different families. -/
lemma reversed_injective : Function.Injective reversed := by
  intro a b h
  have hread := congrArg ofReversed? h
  rwa [ofReversed?_reversed, ofReversed?_reversed, Option.some_inj] at hread

end Address

/-! ## Templates of addresses -/

/-- Reversing the form with dots puts the labels in opposite order. -/
lemma Transformer.apply_address (a : Address) :
    apply ⟨none, true, []⟩ (Transaction.dotted a) = Text.join ['.'] a.labels.reverse := by
  calc apply ⟨none, true, []⟩ (Transaction.dotted a)
      = Text.join ['.'] (Text.pieces (· == '.') (Transaction.dotted a)).reverse := rfl
    _ = Text.join ['.'] a.labels.reverse := by rw [a.dotted_eq, a.pieces_labels]

namespace Template

/-- The letter of the address stands for its labels with dots between. -/
lemma expand_address (scope : Scope) (x : Transaction) :
    expand scope x "%{i}".toList = .ok (Text.join ['.'] x.client.labels) := by
  rw [expand_letter x .address (by cases scope <;> rfl), Transaction.value, Address.dotted_eq]

/-- The reversed letter of the address stands for its labels in opposite order. -/
lemma expand_reversedAddress (scope : Scope) (x : Transaction) :
    expand scope x "%{ir}".toList = .ok (Text.join ['.'] x.client.labels.reverse) := by
  have hparse : parse scope "%{ir}".toList = .ok [.expand ⟨.address, false, ⟨none, true, []⟩⟩] := by
    cases scope <;> rfl
  rw [expand, hparse, ← Transformer.apply_address]
  exact congrArg Except.ok (List.append_nil _)

/-- The template of a list of addresses expands to the name of the client's address. -/
lemma expand_reversed (scope : Scope) (x : Transaction) :
    expand scope x "%{ir}.%{v}".toList = .ok x.client.reversed := by
  have hparse : parse scope "%{ir}.%{v}".toList = .ok
      [.expand ⟨.address, false, ⟨none, true, []⟩⟩, .copy '.',
        .expand ⟨.addressFamily, false, ⟨none, false, []⟩⟩] := by
    cases scope <;> rfl
  have hne : x.client.labels.reverse ≠ [] := List.reverse_ne_nil_iff.mpr x.client.labels_ne_nil
  rw [expand, hparse, Address.reversed, Text.join_concat _ hne, ← Transformer.apply_address]
  refine congrArg Except.ok ?_
  simp only [render, List.flatMap_cons, List.flatMap_nil, expandPiece, Expression.expand, Transaction.value,
    Bool.false_eq_true, if_false, apply_plain, List.append_nil, List.append_assoc]

/-- The address of a client expands to its labels with dots between: four octets in decimal, or thirty-two digits in
hexadecimal and small letters, the most significant first. Reversed, they are in opposite order. With the label of the
family behind them they are a name from which the address is read back, as it is from the labels themselves; so two
clients for which the template expands to one text have one address, of one family. -/
theorem expand_reversed_eq_iff (scope : Scope) :
    (∀ a : V4, (Address.v4 a).labels = [3, 2, 1, 0].map fun k => Text.ofNat (a.bits.toNat / 256 ^ k % 256)) ∧
      (∀ a : V6, (Address.v6 a).labels =
          ((List.range 32).map fun i => [Text.hexDigit (a.bits.toNat / 16 ^ (31 - i) % 16)]) ∧
        ∀ label ∈ (Address.v6 a).labels, ∃ c ∈ "0123456789abcdef".toList, label = [c]) ∧
      (∀ x : Transaction, let labels := x.client.labels
        expand scope x "%{i}".toList = .ok (Text.join ['.'] labels) ∧
        expand scope x "%{ir}".toList = .ok (Text.join ['.'] labels.reverse) ∧
        expand scope x "%{ir}.%{v}".toList = .ok (Text.join ['.'] (labels.reverse ++ [family x.client])) ∧
        Text.pieces (· == '.') (Text.join ['.'] labels) = labels ∧
        Address.ofLabels? (family x.client) labels = some x.client ∧
        Address.ofReversed? (Text.join ['.'] (labels.reverse ++ [family x.client])) = some x.client) ∧
      ∀ x y : Transaction,
        expand scope x "%{ir}.%{v}".toList = expand scope y "%{ir}.%{v}".toList ↔ x.client = y.client := by
  refine ⟨V4.labels_eq, fun a => ⟨V6.labels_eq a, fun _ => V6.exists_of_mem_labels⟩, fun x => ?_, fun x y => ?_⟩
  · exact ⟨expand_address scope x, expand_reversedAddress scope x, expand_reversed scope x, x.client.pieces_labels,
      x.client.ofLabels?_labels, x.client.ofReversed?_reversed⟩
  · rw [expand_reversed, expand_reversed, Except.ok.injEq]
    exact Address.reversed_injective.eq_iff

/-- An IPv4 address and the IPv6 address that holds it have different names. -/
theorem expand_reversed_eq_iff_mapped :
    let x : Transaction := ⟨"u@a.example".toList, ⟨"u".toList, "a.example".toList⟩, "a.example".toList,
      .v4 (.ofOctets 192 0 2 1), "h.example".toList, none, "unknown".toList, 0⟩
    let y : Transaction := { x with client := .v6 ⟨0xffffc0000201⟩ }
    expand .domain x "%{ir}.%{v}".toList = .ok "1.2.0.192.in-addr".toList ∧
      expand .domain y "%{ir}.%{v}".toList =
        .ok "1.0.2.0.0.0.0.c.f.f.f.f.0.0.0.0.0.0.0.0.0.0.0.0.0.0.0.0.0.0.0.0.ip6".toList ∧
      (['c'] ∈ y.client.labels ∧ ∃ c ∈ "0123456789abcdef".toList, (['c'] : Text) = [c]) ∧
      expand .domain x "%{ir}.%{v}".toList ≠ expand .domain y "%{ir}.%{v}".toList := by
  intro x y
  obtain ⟨-, hdigits, -, hiff⟩ := expand_reversed_eq_iff .domain
  have hmem : ['c'] ∈ y.client.labels := by decide
  have hne : x.client ≠ y.client := by decide
  have hx : x.client.reversed = "1.2.0.192.in-addr".toList := by decide
  have hy : y.client.reversed =
      "1.0.2.0.0.0.0.c.f.f.f.f.0.0.0.0.0.0.0.0.0.0.0.0.0.0.0.0.0.0.0.0.ip6".toList := by decide
  refine ⟨?_, ?_, ⟨hmem, (hdigits ⟨0xffffc0000201⟩).2 ['c'] hmem⟩, mt (hiff x y).mp hne⟩
  · rw [expand_reversed, hx]
  · rw [expand_reversed, hy]

end Template

end SenderPolicy
