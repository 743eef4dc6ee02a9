import SenderPolicy.Text.Basic

/-!
# Scanning a command line

How words are told apart as options, values, commands and operands. A grammar says which options there are; a scan
reads word after word, and stops at a command, whose own words are left.

A value that stands in a word of its own is looked at only when the next option or operand is met, or at the end.
So a command after it is met first.
-/

namespace SenderPolicy.CommandLine

/-- The words that a command line may hold. Options are named without the dashes before them; the option for help
is there always. -/
structure Grammar where
  /-- Options without a value. -/
  flags : List Text := []
  /-- The flags that may be given more than once. -/
  repeatable : List Text := []
  /-- Flags that may also be given by a letter. -/
  letters : List (Char × Text) := []
  /-- Options with a value, and the values they accept. -/
  settings : List (Text × (Text → Bool)) := []
  /-- Words at which a scan stops. -/
  commands : List Text := []
  /-- How many operands there may be. -/
  operands : Nat := 0

/-- What was read of a command line. -/
structure Scan where
  /-- The flags given. -/
  flags : List Text := []
  /-- The settings given, with values that were accepted. -/
  settings : List (Text × Text) := []
  /-- A setting whose value was not looked at yet. -/
  pending : Option (Text × Text) := none
  /-- The operands, in order. -/
  operands : List Text := []

namespace Scan

def value? (s : Scan) (name : Text) : Option Text :=
  s.settings.lookup name

def has (s : Scan) (name : Text) : Bool :=
  s.flags.contains name

/-- The scan with the pending setting settled, if its value is accepted and it was not given before. -/
def settle (g : Grammar) (s : Scan) : Option Scan :=
  match s.pending with
  | none => some s
  | some (name, value) =>
    if (g.settings.lookup name).any (· value) && (s.value? name).isNone then
      some { s with settings := (name, value) :: s.settings, pending := none }
    else
      none

/-- The scan with a further flag, unless it may not be given again. -/
def addFlag (g : Grammar) (name : Text) (s : Scan) : Option Scan :=
  if s.has name && !g.repeatable.contains name then none else some { s with flags := name :: s.flags }

/-- The scan with a further operand, unless there are enough. -/
def addOperand (g : Grammar) (word : Text) (s : Scan) : Option Scan :=
  if s.operands.length < g.operands then some { s with operands := s.operands ++ [word] } else none

end Scan

def helpName : Text := "help".toList

def helpLetter : Char := 'h'

/-- A word that is written as an option: a dash and more. -/
def isDashed : Text → Bool
  | '-' :: _ :: _ => true
  | _ => false

/-- What the reading of one word leads to. -/
inductive Step where
  | next (s : Scan)
  /-- The next word is the value of the setting. -/
  | await (s : Scan) (name : Text)
  | help
  | misuse

namespace Step

def ofOption : Option Scan → Step
  | some s => next s
  | none => misuse

end Step

/-- Reads an option by its name, with a value if one is attached. -/
def readLong (g : Grammar) (s : Scan) (name : Text) (value : Option Text) : Step :=
  -- a value that was not looked at is settled before the option that follows it
  match s.settle g with
  | none => .misuse
  | some s =>
    if (g.settings.lookup name).isSome then
      match value with
      | none => .await s name
      | some value => .ofOption (Scan.settle g { s with pending := some (name, value) })
    else if value.isSome then .misuse
    else if name = helpName then .help
    else if g.flags.contains name then .ofOption (s.addFlag g name)
    else .misuse

def readLetters (g : Grammar) (s : Scan) : List Char → Step
  | [] => .next s
  | c :: cs =>
    if c = helpLetter then .help
    else
      match (g.letters.lookup c).bind (s.addFlag g) with
      | some s => readLetters g s cs
      | none => .misuse

def readOption (g : Grammar) (s : Scan) (word : Text) : Step :=
  match word.drop 1 with
  | '-' :: body =>
    match Text.cutFirst '=' body with
    | some (name, value) => readLong g s name (some value)
    | none => readLong g s body none
  | letters =>
    match s.settle g with
    | some s => readLetters g s letters
    | none => .misuse

/-- What a scan ends with. -/
inductive Stop where
  | complete (s : Scan)
  /-- A command was met, and the words after it are left. -/
  | command (s : Scan) (name : Text) (rest : List Text)
  | help
  | misuse

namespace Stop

def ofOption : Option Scan → Stop
  | some s => complete s
  | none => misuse

end Stop

def scanOperands (g : Grammar) (s : Scan) : List Text → Stop
  | [] => .ofOption (s.settle g)
  | word :: rest =>
    match (s.settle g).bind (·.addOperand g word) with
    | some s => scanOperands g s rest
    | none => .misuse

/-- Reads words. After a word of two dashes all words are operands. -/
def scan (g : Grammar) (s : Scan) : List Text → Stop
  | [] => .ofOption (s.settle g)
  | word :: rest =>
    if word = "--".toList then scanOperands g s rest
    else if isDashed word then
      match readOption g s word with
      | .next s => scan g s rest
      | .await s name =>
        match rest with
        | [] => .misuse
        | value :: rest =>
          if isDashed value then .misuse else scan g { s with pending := some (name, value) } rest
      | .help => .help
      | .misuse => .misuse
    else if g.commands.contains word then .command s word rest
    else
      match (s.settle g).bind (·.addOperand g word) with
      | some s => scan g s rest
      | none => .misuse

end SenderPolicy.CommandLine
