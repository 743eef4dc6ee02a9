import SenderPolicy.Address.V4
import SenderPolicy.Text.Hex

/-!
# IPv6 addresses

An IPv6 address is a word of 128 bits, written as eight groups of at most four hexadecimal digits between
colons. One run of zero groups may be left out between two colons, and the last two groups may be written as an
IPv4 address.

An address is printed in small letters with the first of its longest runs of two or more zero groups left out;
an address that holds an IPv4 address (`::ffff:0:0/96`) is printed with that address at its end.
-/

namespace SenderPolicy

/-- An IPv6 address. -/
structure V6 where
  bits : BitVec 128
deriving DecidableEq

namespace V6

/-- The address with the given groups, the most significant first; only the last eight count. -/
def ofGroups (gs : List (BitVec 16)) : V6 :=
  ⟨gs.foldl (fun n g => n <<< 16 ||| g.setWidth 128) 0⟩

/-- The eight groups, the most significant first. -/
def groups (a : V6) : List (BitVec 16) :=
  [112, 96, 80, 64, 48, 32, 16, 0].map fun i => a.bits.extractLsb' i 16

/-- The thirty-two hexadecimal digits, the most significant first. -/
def nibbles (a : V6) : List (BitVec 4) :=
  (List.range 32).map fun i => a.bits.extractLsb' (124 - 4 * i) 4

/-- The IPv4 address that an address of the block `::ffff:0:0/96` holds. -/
def mapped? (a : V6) : Option V4 :=
  if a.bits.extractLsb' 32 96 = 0xffff#96 then some ⟨a.bits.extractLsb' 0 32⟩ else none

/-- A group in hexadecimal, without leading zeros. -/
def groupText (g : BitVec 16) : Text :=
  Nat.toDigits 16 g.toNat

/-- Where the first of the longest runs of zero groups starts, and its length. -/
def zeroRun (gs : List (BitVec 16)) : Nat × Nat :=
  let run (i : Nat) := ((gs.drop i).takeWhile (· == 0#16)).length
  (List.range gs.length).foldl (fun best i => if best.2 < run i then (i, run i) else best) (0, 0)

/-- Groups in hexadecimal between colons. -/
def groupsText (gs : List (BitVec 16)) : Text :=
  Text.join [':'] (gs.map groupText)

def text (a : V6) : Text :=
  match a.mapped? with
  | some v4 => "::ffff:".toList ++ v4.text
  | none =>
    let (start, length) := zeroRun a.groups
    -- a zero group that stands alone is printed
    if 1 < length then
      groupsText (a.groups.take start) ++ "::".toList ++ groupsText (a.groups.drop (start + length))
    else
      groupsText a.groups

/-- A group: one to four hexadecimal digits. -/
def group? (t : Text) : Option (BitVec 16) :=
  if 1 ≤ t.length ∧ t.length ≤ 4 then (Text.hexNumber? t).map (BitVec.ofNat 16) else none

/-- The groups that pieces between colons spell; the last piece may spell two of them as an IPv4 address. -/
def groupsOf? : List Text → Option (List (BitVec 16))
  | [] => some []
  | [t] =>
    match V4.ofText? t with
    | some v4 => some [v4.bits.extractLsb' 16 16, v4.bits.extractLsb' 0 16]
    | none => (group? t).map ([·])
  | t :: ts => do
    let g ← group? t
    let gs ← groupsOf? ts
    return g :: gs

/-- The groups of one side of a left-out run, which may be empty. -/
def sideGroups? (t : Text) : Option (List (BitVec 16)) :=
  if t.isEmpty then some [] else groupsOf? (Text.pieces (· == ':') t)

/-- The texts before and after the first two colons in a row. -/
def cutGap : Text → Option (Text × Text)
  | ':' :: ':' :: rest => some ([], rest)
  | c :: rest => (cutGap rest).map fun (before, after) => (c :: before, after)
  | [] => none

/-- The address that a text spells. A run is left out only if it has at least one group, and an IPv4 address
stands only at the very end. -/
def ofText? (t : Text) : Option V6 :=
  match cutGap t with
  | none =>
    match groupsOf? (Text.pieces (· == ':') t) with
    | some gs => if gs.length = 8 then some (ofGroups gs) else none
    | none => none
  | some (before, after) =>
    -- an IPv4 address in front of the gap would not be the end of the text
    if before.contains '.' then none
    else
      match sideGroups? before, sideGroups? after with
      | some front, some back =>
        if front.length + back.length < 8 then
          some (ofGroups (front ++ List.replicate (8 - front.length - back.length) 0 ++ back))
        else
          none
      | _, _ => none

end V6

end SenderPolicy
