import SenderPolicy.Json.Basic
import SenderPolicy.Text.Hex

/-!
# Reading JSON

A text is read in two steps: into tokens, and from tokens into a value. The second step keeps the arrays and
objects that are still open on a stack, so that both steps are recursion on a list.
-/

namespace SenderPolicy.Json

/-- A token of a JSON text. -/
inductive Token where
  | openArray
  | closeArray
  | openObject
  | closeObject
  | colon
  | comma
  | leaf (v : Json)
  | string (content : Option Text)

/-- A character of a string as it was written: itself, or an escape with a number of sixteen bits. -/
inductive Unit16 where
  | char (c : Char)
  | escape (n : Nat)

namespace Unit16

/-- The text of a string. An escape for the first half of a character must be followed by one for the second. -/
def assemble : List Unit16 → Option Text
  | [] => some []
  | char c :: rest => (assemble rest).map (c :: ·)
  | escape high :: rest =>
    if 0xD800 ≤ high ∧ high < 0xDC00 then
      match rest with
      | escape low :: rest =>
        if 0xDC00 ≤ low ∧ low < 0xE000 then
          (assemble rest).map (Char.ofNat (0x10000 + (high - 0xD800) * 0x400 + (low - 0xDC00)) :: ·)
        else
          none
      | _ => none
    else if 0xDC00 ≤ high ∧ high < 0xE000 then none
    else (assemble rest).map (Char.ofNat high :: ·)

end Unit16

/-- The character that a letter stands for after a backslash. -/
def escape? : Char → Option Char
  | '"' => some '"'
  | '\\' => some '\\'
  | '/' => some '/'
  | 'b' => some '\x08'
  | 'f' => some '\x0c'
  | 'n' => some '\n'
  | 'r' => some '\r'
  | 't' => some '\t'
  | _ => none

/-- One or more digits, and the text after them. -/
def cutDigits? (t : Text) : Option Text :=
  if (t.takeWhile Char.isDigit).isEmpty then none else some (t.dropWhile Char.isDigit)

/-- The text after an integer without superfluous zeros. -/
def cutInteger? : Text → Option Text
  | '0' :: rest => some rest
  | t => cutDigits? t

/-- The text after a fraction, if there is one. -/
def cutFraction? : Text → Option Text
  | '.' :: rest => cutDigits? rest
  | t => some t

/-- The text after an exponent, if there is one. -/
def cutExponent? : Text → Option Text
  | e :: rest =>
    if e = 'e' ∨ e = 'E' then
      match rest with
      | '+' :: digits => cutDigits? digits
      | '-' :: digits => cutDigits? digits
      | digits => cutDigits? digits
    else
      some (e :: rest)
  | [] => some []

def isNumber (t : Text) : Bool :=
  let t := if t.head? = some '-' then t.drop 1 else t
  match ((cutInteger? t).bind cutFraction?).bind cutExponent? with
  | some [] => true
  | _ => false

/-- The value of a word outside strings. -/
def word? (t : Text) : Option Json :=
  if t = "null".toList then some null
  else if t = "true".toList then some (bool true)
  else if t = "false".toList then some (bool false)
  else if isNumber t then some (number t)
  else none

def mark? : Char → Option Token
  | '[' => some .openArray
  | ']' => some .closeArray
  | '\x7b' => some .openObject
  | '\x7d' => some .closeObject
  | ':' => some .colon
  | ',' => some .comma
  | _ => none

/-- A blank between tokens. -/
def isGap (c : Char) : Bool :=
  c == ' ' || c == '\t' || c == '\n' || c == '\r'

/-- Puts the token of a word, if one is pending, before further tokens. -/
def flush (word : Text) (tokens : Option (List Token)) : Option (List Token) :=
  if word.isEmpty then tokens
  else do
    let v ← word? word
    return .leaf v :: (← tokens)

mutual

/-- The tokens of a text; `word` is what stands before it since the last gap or mark. -/
def tokens (word : Text) : Text → Option (List Token)
  | [] => flush word (some [])
  | '"' :: rest => flush word (stringTokens [] rest)
  | c :: rest =>
    if isGap c then flush word (tokens [] rest)
    else
      match mark? c with
      | some t => flush word ((tokens [] rest).map (t :: ·))
      | none => tokens (word ++ [c]) rest

/-- The tokens of a text that starts inside a string; `units` is what stands in the string so far,
the last first. -/
def stringTokens (units : List Unit16) : Text → Option (List Token)
  | [] => none
  | '"' :: rest => (tokens [] rest).map (.string (Unit16.assemble units.reverse) :: ·)
  | '\\' :: 'u' :: a :: b :: c :: d :: rest =>
    match Text.hexNumber? [a, b, c, d] with
    | some n => stringTokens (.escape n :: units) rest
    | none => none
  | '\\' :: e :: rest =>
    match escape? e with
    | some c => stringTokens (.char c :: units) rest
    | none => none
  | c :: rest => if c.toNat < 0x20 ∨ c = '\\' then none else stringTokens (.char c :: units) rest

end

/-- An array or object that is still open, with what it holds so far. -/
inductive Frame where
  | array (items : List Json)
  | object (members : List (Option Text × Json)) (name : Option Text)

mutual

def readValue (stack : List Frame) : List Token → Option Json
  | .leaf v :: ts => readAfter stack v ts
  | .string content :: ts => readAfter stack (.string content) ts
  | .openArray :: .closeArray :: ts => readAfter stack (.array []) ts
  | .openArray :: ts => readValue (.array [] :: stack) ts
  | .openObject :: .closeObject :: ts => readAfter stack (.object []) ts
  | .openObject :: .string name :: .colon :: ts => readValue (.object [] name :: stack) ts
  | _ => none

/-- Puts a value that was read into the innermost open array or object, and reads on. -/
def readAfter (stack : List Frame) (v : Json) : List Token → Option Json
  | [] => if stack.isEmpty then some v else none
  -- a string with a colon after it can only be the name of the next member
  | .comma :: .string name :: .colon :: ts =>
    match stack with
    | .object members name' :: outer => readValue (.object (members ++ [(name', v)]) name :: outer) ts
    | _ => none
  | .comma :: ts =>
    match stack with
    | .array items :: outer => readValue (.array (items ++ [v]) :: outer) ts
    | _ => none
  | .closeArray :: ts =>
    match stack with
    | .array items :: outer => readAfter outer (.array (items ++ [v])) ts
    | _ => none
  | .closeObject :: ts =>
    match stack with
    | .object members name :: outer => readAfter outer (.object (members ++ [(name, v)])) ts
    | _ => none
  | _ => none

end

def parse? (t : Text) : Option Json :=
  (tokens [] t).bind (readValue [])

end SenderPolicy.Json
