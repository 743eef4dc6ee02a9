import SenderPolicy.Idna.CompositionTable

/-!
# Composed form

The form of a text in which letters and marks are written as one character where there is one, and marks that
stand apart are in a fixed order. It is reached by taking every character apart, ordering the marks after each
letter by their combining class, and putting together what can be. Syllables of the Korean script are taken apart
and put together by arithmetic.
-/

namespace SenderPolicy.Idna

/-- The combining class of a character; zero for one that starts a group of marks. -/
def combiningClass (c : Char) : Nat :=
  (combiningRuns.findSome? fun
    | [k, first, last] => if first ≤ c.toNat ∧ c.toNat ≤ last then some k else none
    | _ => none).getD 0

/-- A mark that suppresses the vowel of the letter before it. -/
def isVirama (c : Char) : Bool :=
  combiningClass c == 9

namespace Hangul

/-- The first syllable. -/
def base : Nat := 0xAC00

/-- The first leading consonant. -/
def leadBase : Nat := 0x1100

/-- The first vowel. -/
def vowelBase : Nat := 0x1161

/-- The place before the first trailing consonant. -/
def tailBase : Nat := 0x11A7

/-- How many leading consonants there are. -/
def leads : Nat := 19

/-- How many vowels there are. -/
def vowels : Nat := 21

/-- How many trailing consonants there are, with the absence of one. -/
def tails : Nat := 28

def parts? (c : Char) : Option Text :=
  let i := c.toNat - base
  if base ≤ c.toNat ∧ i < leads * vowels * tails then
    let lead := Char.ofNat (leadBase + i / (vowels * tails))
    let vowel := Char.ofNat (vowelBase + i % (vowels * tails) / tails)
    if i % tails = 0 then some [lead, vowel] else some [lead, vowel, Char.ofNat (tailBase + i % tails)]
  else
    none

/-- The syllable of a consonant and a vowel, or of an open syllable and a trailing consonant. -/
def compose? (a b : Char) : Option Char :=
  let l := a.toNat - leadBase
  let v := b.toNat - vowelBase
  let s := a.toNat - base
  let t := b.toNat - tailBase
  if leadBase ≤ a.toNat ∧ l < leads ∧ vowelBase ≤ b.toNat ∧ v < vowels then
    some (Char.ofNat (base + (l * vowels + v) * tails))
  -- the place right at `tailBase` stands for no consonant
  else if base ≤ a.toNat ∧ s < leads * vowels * tails ∧ s % tails = 0 ∧
      tailBase < b.toNat ∧ t < tails then
    some (Char.ofNat (a.toNat + t))
  else
    none

end Hangul

def parts? (c : Char) : Option Text :=
  composites.findSome? fun
    | [composed, a, b] => if composed = c.toNat then some [Char.ofNat a, Char.ofNat b] else none
    | _ => none

def compose? (a b : Char) : Option Char :=
  (Hangul.compose? a b).or <|
    composites.findSome? fun
      | [composed, a', b'] => if a' = a.toNat ∧ b' = b.toNat then some (Char.ofNat composed) else none
      | _ => none

/-- The text with every composed character taken apart once. -/
def takeApart (t : Text) : Text :=
  t.flatMap fun c => ((Hangul.parts? c).or (parts? c)).getD [c]

/-- Puts a character before a text, behind the marks there that belong before it. -/
def insertMark (c : Char) : Text → Text
  | [] => [c]
  | d :: t =>
    if 0 < combiningClass d ∧ combiningClass d < combiningClass c then d :: insertMark c t else c :: d :: t

/-- The text with the marks after each letter ordered by combining class. -/
def orderMarks (t : Text) : Text :=
  t.foldr insertMark []

/-- Composes a letter with what follows it; `pending` are the marks that stand between and could not be
composed. -/
def composeFrom (letter : Char) (pending : Text) : Text → Text
  | [] => letter :: pending
  | c :: rest =>
    let isBlocked := pending.getLast?.any fun d => combiningClass c ≤ combiningClass d
    match if isBlocked then none else compose? letter c with
    | some composed => composeFrom composed pending rest
    | none =>
      if combiningClass c = 0 then letter :: pending ++ composeFrom c [] rest
      else composeFrom letter (pending ++ [c]) rest

/-- The text with what can be composed put together. -/
def putTogether : Text → Text
  | [] => []
  | c :: rest => if combiningClass c = 0 then composeFrom c [] rest else c :: putTogether rest

/-- The composed form of a text. Characters are taken apart twice, since a part may itself be composed, but not a
part of a part. -/
def composedForm (t : Text) : Text :=
  putTogether (orderMarks (takeApart (takeApart t)))

end SenderPolicy.Idna
