/-!
# Text

Every text of the library is the list of its characters, so that reading it is recursion on a list. This
module holds the operations that know nothing of domains or policies: ASCII letter case, cutting a text at a
character, and dropping a run of characters at its end.
-/

namespace SenderPolicy

/-- A text is the list of its characters. -/
abbrev Text := List Char

namespace Text

def isAscii (c : Char) : Bool :=
  c.toNat < 0x80

/-- The text with its ASCII capital letters made small; every other character is kept. -/
def lower (t : Text) : Text :=
  t.map Char.toLower

/-- The text with its ASCII small letters made capital; every other character is kept. -/
def upper (t : Text) : Text :=
  t.map Char.toUpper

/-- Two texts that differ at most in the case of ASCII letters. -/
def sameLetters (a b : Text) : Bool :=
  lower a == lower b

/-- The first text comes before the second by the code points of their characters, or is the same. -/
def isUpTo : Text → Text → Bool
  | [], _ => true
  | _ :: _, [] => false
  | a :: s, b :: t => a.toNat < b.toNat || (a == b && isUpTo s t)

/-- The text before the first character of the class, and the text from that character on. -/
def cut (p : Char → Bool) (t : Text) : Text × Text :=
  (t.takeWhile (fun c => !p c), t.dropWhile (fun c => !p c))

/-- The texts before and after the first occurrence of a character. -/
def cutFirst (c : Char) (t : Text) : Option (Text × Text) :=
  match cut (· == c) t with
  | (_, []) => none
  | (before, _ :: rest) => some (before, rest)

/-- The texts before and after the last occurrence of a character. -/
def cutLast (c : Char) (t : Text) : Option (Text × Text) :=
  (cutFirst c t.reverse).map fun (rest, before) => (before.reverse, rest.reverse)

/-- The text without the run of characters of the class at its end. -/
def dropEnd (p : Char → Bool) (t : Text) : Text :=
  (t.reverse.dropWhile p).reverse

def dropDots (t : Text) : Text :=
  dropEnd (· == '.') t

/-- The text without one dot at its end, if it has one. -/
def dropDot (t : Text) : Text :=
  if t.getLast? = some '.' then t.dropLast else t

/-- The maximal runs of characters between separators, empty ones included. -/
def pieces (p : Char → Bool) (t : Text) : List Text :=
  t.splitOnP p

/-- The non-empty runs of characters between separators. -/
def words (p : Char → Bool) (t : Text) : List Text :=
  (pieces p t).filter (fun w => !w.isEmpty)

/-- The texts in order with a separator between any two of them. -/
def join (separator : Text) (ts : List Text) : Text :=
  List.intercalate separator ts

/-- The text with every occurrence of one character replaced by a text. -/
def substitute (c : Char) (replacement : Text) (t : Text) : Text :=
  t.flatMap fun x => if x = c then replacement else [x]

/-- The text followed by as many spaces as bring it to a width. -/
def padded (width : Nat) (t : Text) : Text :=
  t ++ List.replicate (width - t.length) ' '

/-- The text between apostrophes, as error messages show it. -/
def quoted (t : Text) : Text :=
  "'".toList ++ t ++ "'".toList

end Text

end SenderPolicy
