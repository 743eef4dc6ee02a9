import SenderPolicy.Text.Numeral

/-!
# IPv4 addresses

An IPv4 address is a word of 32 bits, written as four octets in decimal between dots. An octet is written
without a leading zero, so each address has one spelling.
-/

namespace SenderPolicy

/-- An IPv4 address. -/
structure V4 where
  bits : BitVec 32
deriving DecidableEq

namespace V4

/-- The address with the given octets, the most significant first. -/
def ofOctets (a b c d : BitVec 8) : V4 :=
  ⟨a ++ b ++ c ++ d⟩

/-- The four octets, the most significant first. -/
def octets (a : V4) : List (BitVec 8) :=
  [a.bits.extractLsb' 24 8, a.bits.extractLsb' 16 8, a.bits.extractLsb' 8 8, a.bits.extractLsb' 0 8]

/-- The octets in decimal between dots. -/
def text (a : V4) : Text :=
  Text.join ['.'] (a.octets.map fun o => Text.ofNat o.toNat)

/-- An octet in decimal: a number below 256 without a leading zero. -/
def octet? (t : Text) : Option (BitVec 8) :=
  match t with
  | '0' :: _ :: _ => none
  | _ => ((Text.numeral? t).filter (· < 256)).map (BitVec.ofNat 8)

/-- The address that four octets between dots spell. -/
def ofText? (t : Text) : Option V4 :=
  match (Text.pieces (· == '.') t).map octet? with
  | [some a, some b, some c, some d] => some (ofOctets a b c d)
  | _ => none

end V4

end SenderPolicy
