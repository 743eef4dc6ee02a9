import SenderPolicy.CommandLine.Csv
import SenderPolicy.Json.Printer
import SenderPolicy.Outcome
import SenderPolicy.Policy.Data
import SenderPolicy.Policy.Printer

/-!
# Reports

Outcomes and policies as the program shows them: for a reader, as JSON on several lines or on one line each, or
as comma-separated values. A report for a reader is always printed; any other may go to a file.
-/

namespace SenderPolicy.CommandLine

/-- How outcomes are shown. -/
inductive Format where
  | human
  | json
  | ndjson
  | csv
deriving DecidableEq

namespace Format

def word : Format → Text
  | human => "human".toList
  | json => "json".toList
  | ndjson => "ndjson".toList
  | csv => "csv".toList

def all : List Format :=
  [human, json, ndjson, csv]

def forPolicy : List Format :=
  [human, json]

/-- The format among some that a text names. -/
def ofText? (formats : List Format) (t : Text) : Option Format :=
  formats.find? (·.word == t)

/-- What is said about a text that names none of the formats; `purpose` tells what for. -/
def unknownMessage (formats : List Format) (purpose t : Text) : Text :=
  "unknown --format ".toList ++ Text.quoted t ++ purpose ++ ", use: ".toList ++
    Text.join ['|'] (formats.map word)

end Format

/-- A text and the end of its line. -/
def line (t : Text) : Text :=
  t ++ ['\n']

def humanLines (o : Outcome) : List Text :=
  let tag := Text.padded 12 ('[' :: Text.upper o.verdict.word ++ [']'])
  let margin := List.replicate 12 ' '
  let source := (o.client.map fun client => " from ".toList ++ client.text).getD []
  (tag ++ o.sender ++ source) ::
    (o.explanation.map fun t => margin ++ "explanation: ".toList ++ t).toList ++
    (o.failure.map fun f => margin ++ "problem: ".toList ++ f.message).toList ++
    [margin ++ "lookups: dns=".toList ++ Text.ofNat o.lookups ++ " void=".toList ++ Text.ofNat o.voids,
      margin ++ "received-spf: ".toList ++ o.trace]

/-- A member of an object that is left out if it has no value. -/
def optionalMember (name : String) (value : Option Text) : List (Text × Json) :=
  (value.map fun t => (name.toList, Json.text t)).toList

def outcomeJson (o : Outcome) : Json :=
  .ofMembers <|
    [("sender".toList, .text o.sender), ("domain".toList, .text o.domain)] ++
      optionalMember "client_ip" (o.client.map Address.text) ++ optionalMember "helo" o.helo ++
      [("result".toList, .text o.verdict.word)] ++
      optionalMember "explanation" o.explanation ++ optionalMember "problem" (o.failure.map Failure.message) ++
      [("dns_lookups".toList, .nat o.lookups), ("void_lookups".toList, .nat o.voids),
        ("received_spf".toList, .text o.trace)]

def csvHeader : List Text :=
  ["sender".toList, "domain".toList, "client_ip".toList, "helo".toList, "result".toList, "explanation".toList,
    "problem".toList, "dns_lookups".toList, "void_lookups".toList]

def csvFields (o : Outcome) : List Text :=
  [o.sender, o.domain, (o.client.map Address.text).getD [], o.helo.getD [], o.verdict.word,
    o.explanation.getD [], (o.failure.map Failure.message).getD [], Text.ofNat o.lookups, Text.ofNat o.voids]

/-- What a run puts out: a text that is printed, and perhaps a file, by its path and content. -/
structure Output where
  printed : Text
  saved : Option (Text × Text) := none
deriving DecidableEq

namespace Output

/-- A text that is only printed. -/
def print (t : Text) : Output :=
  ⟨t, none⟩

/-- A text that goes to a file, or is printed if there is none. -/
def send (out : Option Text) (t : Text) : Output :=
  match out with
  | some path => ⟨[], some (path, t)⟩
  | none => print t

/-- A JSON value, which is printed with the end of a line, and saved without. -/
def sendJson (out : Option Text) (v : Json) : Output :=
  match out with
  | some path => ⟨[], some (path, v.pretty)⟩
  | none => print (line v.pretty)

end Output

def report (out : Option Text) (outcomes : List Outcome) : Format → Output
  | .human => .print ((outcomes.flatMap humanLines).flatMap line)
  | .json => .sendJson out (.array (outcomes.map outcomeJson))
  | .ndjson => .send out (outcomes.flatMap fun o => line (outcomeJson o).compact)
  | .csv => .send out ((csvHeader :: outcomes.map csvFields).flatMap Csv.row)

/-- The line for a reader that shows a term of a policy. -/
def termLine : Term → Text
  | .directive d =>
    List.replicate 8 ' ' ++ Text.padded 10 d.mechanism.kind.word ++ ' ' ::
      Text.padded 8 d.qualifier.verdict.word ++ ' ' :: d.mechanism.text
  | .modifier m => List.replicate 8 ' ' ++ "modifier   ".toList ++ m.text

def humanPolicy (p : Policy) : Text :=
  (("[OK]    ".toList ++ p.text) :: p.terms.map termLine).flatMap line

/-- The exit code for outcomes: one that is an error outweighs one that fails. -/
def exitCode (outcomes : List Outcome) : Nat :=
  if outcomes.any (·.verdict.isError) then 3
  else if outcomes.any fun o => o.verdict == .fail || o.verdict == .softFail then 2
  else 0

end SenderPolicy.CommandLine
