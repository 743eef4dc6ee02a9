import SenderPolicy.Address.V6

/-!
# Internet addresses

An address of either family, its text, and the form in which a client's address is evaluated: an IPv6 address
that holds an IPv4 address stands for the latter.
-/

namespace SenderPolicy

/-- An address of either family. -/
inductive Address where
  | v4 (address : V4)
  | v6 (address : V6)
deriving DecidableEq

namespace Address

def text : Address → Text
  | v4 a => a.text
  | v6 a => a.text

/-- The address of either family that a text spells. -/
def ofText? (t : Text) : Option Address :=
  match V4.ofText? t with
  | some a => some (v4 a)
  | none => (V6.ofText? t).map v6

/-- The address as a client's address is evaluated: IPv4 where an IPv6 address holds one. -/
def canonical : Address → Address
  | v4 a => v4 a
  | v6 a =>
    match a.mapped? with
    | some a' => v4 a'
    | none => v6 a

/-- The canonical form of an address is its own canonical form. -/
theorem canonical_canonical (a : Address) : a.canonical.canonical = a.canonical := by
  cases a with
  | v4 a => rfl
  | v6 a =>
    rw [canonical]
    split
    · rfl
    · next h => rw [canonical, h]

end Address

end SenderPolicy
