import SenderPolicy.Idna.DirectionTable
import SenderPolicy.Text.Basic

/-!
# Writing direction of labels

A name with right-to-left characters is allowed only if each of its labels keeps its characters in an order that a
reader sees: a label is written in one direction, begins and ends with characters of that direction or numbers,
and does not mix the two kinds of numbers.
-/

namespace SenderPolicy.Idna

/-- The directional class of a character. -/
inductive Direction where
  | leftToRight
  | rightToLeft
  | arabicLetter
  | arabicNumber
  | europeanNumber
  | europeanSeparator
  | commonSeparator
  | europeanTerminator
  | neutral
  | boundaryNeutral
  | nonspacingMark
  | unsuited
deriving DecidableEq

namespace Direction

/-- The classes with the characters that belong to them. -/
def tables : List (Direction × List Table.Range) :=
  [(rightToLeft, rightToLeftLetters), (arabicLetter, arabicLetters), (arabicNumber, arabicNumbers),
    (europeanNumber, europeanNumbers), (europeanSeparator, europeanSeparators),
    (commonSeparator, commonSeparators), (europeanTerminator, europeanTerminators), (neutral, neutrals),
    (boundaryNeutral, boundaryNeutrals), (nonspacingMark, nonspacingMarks), (unsuited, unsuitedCharacters)]

def ofChar (c : Char) : Direction :=
  match tables.find? fun (_, table) => Table.has table c with
  | some (d, _) => d
  | none => leftToRight

/-- A class that makes a name one with right-to-left characters. -/
def isRightToLeft : Direction → Bool
  | rightToLeft | arabicLetter | arabicNumber => true
  | _ => false

/-- A class that a label of either direction may hold. -/
def isCommon : Direction → Bool
  | europeanNumber | europeanSeparator | commonSeparator | europeanTerminator | neutral | boundaryNeutral
  | nonspacingMark => true
  | _ => false

/-- The classes of a left-to-right label that follow the first are in order. -/
def suitsLeftToRight (rest : List Direction) : Bool :=
  rest.all (fun d => d == leftToRight || d.isCommon) &&
    -- marks at the end go with the character before them
    match rest.reverse.dropWhile (· == nonspacingMark) with
    | [] => true
    | d :: _ => d == leftToRight || d == europeanNumber

/-- The classes of a right-to-left label that follow the first are in order. -/
def suitsRightToLeft (rest : List Direction) : Bool :=
  rest.all (fun d => d.isRightToLeft || d.isCommon) &&
    !(rest.contains arabicNumber && rest.contains europeanNumber) &&
    match rest.reverse.dropWhile (· == nonspacingMark) with
    | [] => true
    | d :: _ => d.isRightToLeft || d == europeanNumber

/-- The classes of a label are in order. -/
def suits : List Direction → Bool
  | [] => true
  | leftToRight :: rest => suitsLeftToRight rest
  | rightToLeft :: rest | arabicLetter :: rest => suitsRightToLeft rest
  | _ => false

end Direction

/-- Some character of a label is a right-to-left one; no ASCII character is. -/
def hasRightToLeft (label : Text) : Bool :=
  label.any fun c => !Text.isAscii c && (Direction.ofChar c).isRightToLeft

/-- The characters of a label are in an order that a reader sees. -/
def hasSuitedDirection (label : Text) : Bool :=
  Direction.suits (label.map Direction.ofChar)

end SenderPolicy.Idna
