import SenderPolicy.Idna.MappingTable

/-!
# Mapping characters of names

The first step towards the ASCII form of a name: letters become small, compatibility forms become what they stand
for, some characters are dropped, and some are not allowed. An ASCII character is always allowed, and only
capital letters change.
-/

namespace SenderPolicy.Idna

/-- The place of a character in a run of so many characters from a first one on. -/
def runPlace? (c : Char) (first count step : Nat) : Option Nat :=
  let i := (c.toNat - first) / step
  if first ≤ c.toNat ∧ (c.toNat - first) % step = 0 ∧ i < count then some i else none

/-- The character that a run of characters with one replacement each gives for a character. -/
def runReplacement? (c : Char) : List Nat → Option Text
  | [first, count, step, target] => (runPlace? c first count step).map fun _ => [Char.ofNat target]
  | [first, count, step, target, targetStep] =>
    (runPlace? c first count step).map fun i => [Char.ofNat (target + i * targetStep)]
  | _ => none

/-- The replacements that an entry gives for a character. -/
def wordReplacement? (c : Char) : List Nat → Option Text
  | source :: targets => if source = c.toNat then some (targets.map Char.ofNat) else none
  | [] => none

def replacement? (c : Char) : Option Text :=
  (mappedRuns.findSome? (runReplacement? c)).or (mappedWords.findSome? (wordReplacement? c))

def isKept (c : Char) : Bool :=
  if Text.isAscii c then c.toLower == c
  else !Table.has disallowed c && !Table.has ignored c && (replacement? c).isNone

/-- What becomes of a character, if it is allowed. -/
def mapChar (c : Char) : Option Text :=
  if Text.isAscii c then some [c.toLower]
  else if Table.has disallowed c then none
  else if Table.has ignored c then some []
  else some ((replacement? c).getD [c])

/-- What becomes of a text, if all its characters are allowed. -/
def mapText (t : Text) : Option Text :=
  (t.mapM mapChar).map List.flatten

end SenderPolicy.Idna
