import SenderPolicy.Idna.Composition
import SenderPolicy.Idna.JoiningTable

/-!
# Joiners

Two invisible characters control how letters join. They are allowed only where they make a difference: after a
mark that suppresses a vowel, and, for the one that keeps letters apart, also between letters that would join.
-/

namespace SenderPolicy.Idna

/-- The character that keeps letters apart. -/
def nonJoiner : Char := '\u200c'

/-- The character that makes letters join. -/
def joiner : Char := '\u200d'

/-- The first character of a text that does not let a join pass is of the table. -/
def joins (table : List Table.Range) (t : Text) : Bool :=
  match t.dropWhile (fun c => Table.has transparent c) with
  | [] => false
  | c :: _ => Table.has table c || Table.has dualJoining c

/-- The joiners of a text are allowed where they stand; `before` is what stands before it, the last first. -/
def joinersFit (before : Text) : Text → Bool
  | [] => true
  | c :: rest =>
    (if c = nonJoiner then
      before.head?.any isVirama || (joins leftJoining before && joins rightJoining rest)
    else if c = joiner then before.head?.any isVirama
    else true) && joinersFit (c :: before) rest

end SenderPolicy.Idna
