import SenderPolicy.Json.Basic
import SenderPolicy.Text.Hex

/-!
# Printing JSON

Two layouts of a value: on one line without blanks, and with every item and member on a line of its own, indented
by two spaces a level. A string shows the quotation mark, the backslash and the control characters as escapes and
every other character as it is.
-/

namespace SenderPolicy.Json

/-- A character as it stands in a string. -/
def escaped (c : Char) : Text :=
  match c with
  | '"' => "\\\"".toList
  | '\\' => "\\\\".toList
  | '\x08' => "\\b".toList
  | '\x0c' => "\\f".toList
  | '\n' => "\\n".toList
  | '\r' => "\\r".toList
  | '\t' => "\\t".toList
  | _ =>
    if c.toNat < 0x20 then "\\u00".toList ++ [Text.hexDigit (c.toNat / 16), Text.hexDigit (c.toNat % 16)] else [c]

def quote (t : Text) : Text :=
  '"' :: t.flatMap escaped ++ ['"']

/-- The string of a content; that of no text is empty. -/
def contentText (content : Option Text) : Text :=
  quote (content.getD [])

/-- The text of a value that has no parts. -/
def leafText : Json → Text
  | null => "null".toList
  | bool b => if b then "true".toList else "false".toList
  | number lexeme => lexeme
  | string content => contentText content
  | array _ => "[]".toList
  | object _ => "\x7b\x7d".toList

mutual

def compact : Json → Text
  | array items => '[' :: compactItems items ++ [']']
  | object members => '\x7b' :: compactMembers members ++ ['\x7d']
  | leaf => leaf.leafText

def compactItems : List Json → Text
  | [] => []
  | [v] => v.compact
  | v :: vs => v.compact ++ ',' :: compactItems vs

def compactMembers : List (Option Text × Json) → Text
  | [] => []
  | [(name, v)] => contentText name ++ ':' :: v.compact
  | (name, v) :: ms => contentText name ++ ':' :: v.compact ++ ',' :: compactMembers ms

end

def newLine (level : Nat) : Text :=
  '\n' :: List.replicate (2 * level) ' '

mutual

/-- The value on several lines, whose parts stand one level deeper than `level`. -/
def prettyAt (level : Nat) : Json → Text
  | array (v :: vs) => '[' :: prettyItems (level + 1) (v :: vs) ++ newLine level ++ [']']
  | object (m :: ms) => '\x7b' :: prettyMembers (level + 1) (m :: ms) ++ newLine level ++ ['\x7d']
  | leaf => leaf.leafText

/-- The items of an array, each on a line of its own. -/
def prettyItems (level : Nat) : List Json → Text
  | [] => []
  | [v] => newLine level ++ v.prettyAt level
  | v :: vs => newLine level ++ v.prettyAt level ++ ',' :: prettyItems level vs

/-- The members of an object, each on a line of its own. -/
def prettyMembers (level : Nat) : List (Option Text × Json) → Text
  | [] => []
  | [(name, v)] => newLine level ++ contentText name ++ ": ".toList ++ v.prettyAt level
  | (name, v) :: ms =>
    newLine level ++ contentText name ++ ": ".toList ++ v.prettyAt level ++ ',' :: prettyMembers level ms

end

def pretty (v : Json) : Text :=
  v.prettyAt 0

end SenderPolicy.Json
