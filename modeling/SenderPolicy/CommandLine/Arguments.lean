import SenderPolicy.CommandLine.Scan
import SenderPolicy.Options.Basic

/-!
# Arguments

What the words of a command line ask for: a run of the program, or help. Options of the program stand before the
command, those of a command after it.
-/

namespace SenderPolicy.CommandLine

/-- What one run does. -/
inductive Command where
  /-- Checks a sender against the text of an address. -/
  | check (sender address : Text) (helo : Option Text)
  /-- Reads a policy and prints it. -/
  | parse (record : Text)
deriving DecidableEq

/-- The options and the command of a run. -/
structure Arguments where
  command : Option Command := none
  /-- Checks the lines of the input in place of a command. -/
  batch : Bool := false
  /-- The file that gets the report. -/
  out : Option Text := none
  format : Text := "human".toList
  config : Option Text := none
  maxLookups : Option Nat := none
  maxVoids : Option Nat := none
  /-- The time a lookup may take, in milliseconds. -/
  timeout : Option Nat := none
  receiver : Option Text := none
  cache : Bool := false
  /-- How often more detail of the log was asked for. -/
  verbosity : Nat := 0
deriving DecidableEq

/-- What help is about. -/
inductive Topic where
  | program
  | check
  | parse
  | help
deriving DecidableEq

/-- What a command line asks for. -/
inductive Invocation where
  | run (a : Arguments)
  | help (topic : Topic)
  | misuse
deriving DecidableEq

namespace Topic

def commands : List (Text × Topic) :=
  [("check".toList, check), ("parse".toList, parse), ("help".toList, help)]

end Topic

/-- A number of at most 64 bits. -/
def number? (t : Text) : Option Nat :=
  Text.boundedNumeral? Text.maxWord t

namespace Grammar

def program : Grammar where
  flags := ["stdin".toList, "cache".toList, "verbose".toList]
  repeatable := ["verbose".toList]
  letters := [('v', "verbose".toList)]
  settings :=
    [("out".toList, fun _ => true), ("format".toList, fun _ => true), ("config".toList, fun t => !t.isEmpty),
      ("max-lookups".toList, fun t => (number? t).isSome),
      ("max-void-lookups".toList, fun t => (number? t).isSome),
      ("timeout".toList, fun t => (number? t).isSome), ("receiving-domain".toList, fun _ => true)]
  commands := Topic.commands.map Prod.fst

def check : Grammar where
  settings := [("helo".toList, fun _ => true)]
  operands := 2

def parse : Grammar where
  operands := 1

end Grammar

/-- The arguments that the options of the program give. -/
def Arguments.ofScan (s : Scan) (command : Option Command) : Arguments where
  command := command
  batch := s.has "stdin".toList
  out := s.value? "out".toList
  format := (s.value? "format".toList).getD "human".toList
  config := s.value? "config".toList
  maxLookups := (s.value? "max-lookups".toList).bind number?
  maxVoids := (s.value? "max-void-lookups".toList).bind number?
  timeout := (s.value? "timeout".toList).bind number?
  receiver := s.value? "receiving-domain".toList
  cache := s.has "cache".toList
  verbosity := s.flags.count "verbose".toList

/-- The options given, in place of those that a configuration has. -/
def Arguments.adjust (a : Arguments) (o : Options) : Options :=
  let o := (a.maxLookups.map fun n => o.withMaxLookups n).getD o
  let o := (a.maxVoids.map fun n => o.withMaxVoids n).getD o
  let o := (a.timeout.map fun n => o.withTimeout (.ofMilliseconds n)).getD o
  (a.receiver.map fun t => o.withReceiver t).getD o

namespace Invocation

/-- Asks for a run with a command, after the options of the program are settled. -/
def ofCommand (s : Scan) (command : Option Command) : Invocation :=
  match s.settle .program with
  | some s => run (.ofScan s command)
  | none => misuse

def ofCheck (s : Scan) (words : List Text) : Invocation :=
  match scan .check {} words with
  | .complete c =>
    match c.operands with
    | [sender, address] => ofCommand s (some (.check sender address (c.value? "helo".toList)))
    | _ => misuse
  | .help => help .check
  | _ => misuse

def ofParse (s : Scan) (words : List Text) : Invocation :=
  match scan .parse {} words with
  | .complete c =>
    match c.operands with
    | [record] => ofCommand s (some (.parse record))
    | _ => misuse
  | .help => help .parse
  | _ => misuse

def ofHelp : List Text → Invocation
  | [] => help .program
  | [word] =>
    match Topic.commands.lookup word with
    | some topic => help topic
    | none => misuse
  | _ => misuse

def ofWords (words : List Text) : Invocation :=
  match scan .program {} words with
  | .complete s => ofCommand s none
  | .command s name rest =>
    match Topic.commands.lookup name with
    | some .check => ofCheck s rest
    | some .parse => ofParse s rest
    | _ => ofHelp rest
  | .help => help .program
  | .misuse => misuse

end Invocation

end SenderPolicy.CommandLine
