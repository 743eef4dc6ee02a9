import SenderPolicy.Address.Basic

/-!
# Networks

A network is an address and the number of leading bits that count. A number above the width of the family
stands for the whole width, and addresses of different families never meet. Main statement: a network covers
an address exactly when the two agree on each leading bit that counts.
-/

namespace SenderPolicy.Network

def width4 : Nat := 32

def width6 : Nat := 128

/-- The addresses agree on the leading bits, as many as the length says but no more than there are. -/
def covers {w : Nat} (network : BitVec w) (length : Nat) (address : BitVec w) : Bool :=
  network >>> (w - length) == address >>> (w - length)

/-- The IPv4 network covers the client, which is then an IPv4 client. -/
def covers4 (network : V4) (length : Nat) : Address → Bool
  | .v4 client => covers network.bits length client.bits
  | .v6 _ => false

/-- The IPv6 network covers the client, which is then an IPv6 client. -/
def covers6 (network : V6) (length : Nat) : Address → Bool
  | .v6 client => covers network.bits length client.bits
  | .v4 _ => false

/-- The network around an address of either family covers the client; each family has its own length. -/
def coversEither (network : Address) (length4 length6 : Nat) (client : Address) : Bool :=
  match network with
  | .v4 a => covers4 a length4 client
  | .v6 a => covers6 a length6 client

/-- A network covers an address exactly when they agree on each leading bit that counts. -/
theorem covers_iff {w : Nat} (network address : BitVec w) (length : Nat) :
    covers network length address = true ↔
      ∀ i, i < length → network.getMsbD i = address.getMsbD i := by
  simp only [covers, beq_iff_eq]
  constructor
  · intro h i hi
    by_cases hw : i < w
    · have := congrArg (fun v => v.getLsbD (w - 1 - i - (w - length))) h
      simp only [BitVec.getLsbD_ushiftRight] at this
      have e : w - length + (w - 1 - i - (w - length)) = w - 1 - i := by omega
      simpa [BitVec.getMsbD, hw, e] using this
    · simp [BitVec.getMsbD, hw]
  · intro h
    apply BitVec.eq_of_getLsbD_eq
    intro i hi
    simp only [BitVec.getLsbD_ushiftRight]
    by_cases hw : w - length + i < w
    · have := h (w - 1 - (w - length + i)) (by omega)
      have hm : w - 1 - (w - length + i) < w := by omega
      have e : w - 1 - (w - 1 - (w - length + i)) = w - length + i := by omega
      simpa [BitVec.getMsbD, hm, e] using this
    · simp [BitVec.getLsbD_of_ge _ _ (Nat.le_of_not_lt hw)]

end SenderPolicy.Network
