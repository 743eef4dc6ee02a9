import SenderPolicy.Text.Basic

/-!
# Written tables

Tables of characters are written in rows. A row is a number with six hexadecimal digits for each code point, and
zero after each entry but the last of the row.
-/

namespace SenderPolicy.Idna.Table

/-- The most code points that a row holds, with the zeros between entries. -/
def rowLength : Nat := 24

/-- The number that stands in six hexadecimal digits of a row, so many places from its end. -/
def place (row i : Nat) : Nat :=
  row >>> (24 * i) % 0x1000000

/-- The numbers of a row, from the first that is not zero. -/
def numbers (row : Nat) : List Nat :=
  ((List.range rowLength).reverse.map (place row)).dropWhile (· == 0)

def entries (rows : List Nat) : List (List Nat) :=
  rows.flatMap fun row => (numbers row).splitOnP (· == 0)

/-- A run of characters, from the first to the last. -/
structure Range where
  first : Nat
  last : Nat
deriving DecidableEq

def Range.contains (r : Range) (c : Char) : Bool :=
  r.first ≤ c.toNat && c.toNat ≤ r.last

/-- The runs of a table, whose entries hold one character or the first and the last of a run. -/
def ranges (rows : List Nat) : List Range :=
  (entries rows).filterMap fun
    | [n] => some ⟨n, n⟩
    | [first, last] => some ⟨first, last⟩
    | _ => none

def has (table : List Range) (c : Char) : Bool :=
  table.any (·.contains c)

end SenderPolicy.Idna.Table
