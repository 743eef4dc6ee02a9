import SenderPolicy.Sorting
import SenderPolicy.Text.Basic

/-!
# Punycode

The ASCII form of a label with other characters. The ASCII characters come first, then one number for each other
character, in the order of their code points: how far the insertion of that character is from the one before it,
when all places and code points are counted through. The digits of a number are of base thirty-six, with a
threshold that tells its last digit and adapts to the numbers met so far.
-/

namespace SenderPolicy.Idna.Punycode

def base : Nat := 36

/-- The threshold of a digit, by its place counted in steps of the base. -/
def threshold (bias place : Nat) : Nat :=
  max 1 (min 26 (place - bias))

/-- The bias after division by the span of a digit until the number is small; `place` counts the divisions. -/
def settle (place n : Nat) : Nat :=
  if n ≤ 455 then place + base * n / (n + 38) else settle (place + base) (n / 35)
termination_by n
decreasing_by omega

/-- The bias after a number, when a text has a length with the character that the number inserts. -/
def adapt (isFirst : Bool) (length n : Nat) : Nat :=
  let n := if isFirst then n / 700 else n / 2
  settle 0 (n + n / length)

def digitChar (d : Nat) : Char :=
  if d < 26 then Char.ofNat ('a'.toNat + d) else Char.ofNat ('0'.toNat + (d - 26))

def digit? (c : Char) : Option Nat :=
  if 'a' ≤ c.toLower ∧ c.toLower ≤ 'z' then some (c.toLower.toNat - 'a'.toNat)
  else if '0' ≤ c ∧ c ≤ '9' then some (c.toNat - '0'.toNat + 26)
  else none

/-- A threshold leaves room for digits below it and above it. -/
theorem threshold_bounds (bias place : Nat) : 1 ≤ threshold bias place ∧ threshold bias place ≤ 26 := by
  simp only [threshold]
  omega

/-- The digits of a number from a place on. -/
def numberDigits (bias place n : Nat) : Text :=
  let t := threshold bias place
  if n < t then [digitChar n]
  else digitChar (t + (n - t) % (base - t)) :: numberDigits bias (place + base) ((n - t) / (base - t))
termination_by n
decreasing_by
  have ht := threshold_bounds bias place
  exact Nat.lt_of_le_of_lt (Nat.div_le_self _ _) (by omega)

/-- An insertion: a code point and the place among the characters inserted before it. -/
structure Insertion where
  code : Nat
  place : Nat
deriving DecidableEq

/-- The insertions that make a text out of its ASCII characters, in order of code points, then of places. -/
def insertions (t : Text) : List Insertion :=
  let others := t.zipIdx.filter fun (c, _) => !Text.isAscii c
  let sorted := Sorting.sort (fun (c, i) (d, j) => c.toNat < d.toNat || (c.toNat == d.toNat && i ≤ j)) others
  sorted.map fun (c, i) => ⟨c.toNat, (t.take i).countP fun d => d.toNat ≤ c.toNat⟩

/-- The numbers of insertions. `code` and `place` are where the insertion before them ended, and `length` is the
length of the text it made. -/
def encodeFrom (bias code place length : Nat) (isFirst : Bool) : List Insertion → Text
  | [] => []
  | x :: xs =>
    let n := (x.code - code) * (length + 1) + x.place - place
    numberDigits bias base n ++
      encodeFrom (adapt isFirst (length + 1) n) x.code (x.place + 1) (length + 1) false xs

def encode (t : Text) : Text :=
  let basics := t.filter Text.isAscii
  (if basics.isEmpty then [] else basics ++ ['-']) ++ encodeFrom 72 0x80 0 basics.length true (insertions t)

/-- Where a reader stands: in the text made so far, and in the number it reads. -/
structure Reader where
  bias : Nat
  code : Nat
  place : Nat
  isFirst : Bool
  made : Text
  /-- The number read so far. -/
  number : Nat
  /-- What the next digit counts. -/
  weight : Nat
  /-- The place of the next digit. -/
  digitPlace : Nat
deriving DecidableEq

/-- A reader that begins a number. -/
def Reader.begin (bias code place : Nat) (isFirst : Bool) (made : Text) : Reader :=
  ⟨bias, code, place, isFirst, made, 0, 1, base⟩

/-- The reader after the number is complete, if it stands for the insertion of a character. -/
def Reader.insert? (r : Reader) (number : Nat) : Option Reader :=
  let length := r.made.length + 1
  let code := r.code + (r.place + number) / length
  let place := (r.place + number) % length
  if code.isValidChar then
    some (.begin (adapt r.isFirst length number) code (place + 1) false
      (r.made.take place ++ Char.ofNat code :: r.made.drop place))
  else
    none

/-- The most that a digit counts: a word of 32 bits. -/
def maxWeight : Nat := 0xffffffff

def decodeFrom (r : Reader) : Text → Option Text
  | [] => if r.weight = 1 then some r.made else none
  | c :: rest => do
    let d ← digit? c
    let number := r.number + d * r.weight
    let t := threshold r.bias r.digitPlace
    let weight := r.weight * (base - t)
    -- a digit below its threshold is the last one of its number
    if d < t then decodeFrom (← r.insert? number) rest
    else if maxWeight < weight then none
    else decodeFrom { r with number := number, weight := weight, digitPlace := r.digitPlace + base } rest

/-- The ASCII characters of an ASCII form, and its digits. What divides them is written only if there are ASCII
characters. -/
def split (t : Text) : Text × Text :=
  match Text.cutLast '-' t with
  | some (c :: basics, digits) => (c :: basics, digits)
  | _ => ([], t)

/-- The text whose ASCII form is given. -/
def decode? (t : Text) : Option Text :=
  let (basics, digits) := split t
  if basics.all Text.isAscii then decodeFrom (.begin 72 0x80 0 true basics) digits else none

end SenderPolicy.Idna.Punycode
