import SenderPolicy.Checking
import SenderPolicy.CommandLine.Fatal
import SenderPolicy.CommandLine.Help
import SenderPolicy.CommandLine.Report
import SenderPolicy.Dns.Cache
import SenderPolicy.Json.Parser
import SenderPolicy.Options.Data
import SenderPolicy.Policy.Selection
import SenderPolicy.Text.Bytes

/-!
# Running the program

What a command line leads to, given all that the program can see of the world: its input, its files, what answers
queries, and the time. Nothing is written here: a run ends in a description of its output.

A run checks either one sender or the senders of its input, one line after the other, with one resolver for all.
-/

namespace SenderPolicy.CommandLine

/-- A delivery to check: who sends, from which address, and how the client greets. -/
structure Delivery where
  sender : Text
  address : Text
  helo : Option Text
deriving DecidableEq

/-- The delivery of a line, if it is neither empty nor a comment. Fields after the third are skipped. -/
def Delivery.ofLine? (t : Text) : Option Delivery :=
  match Text.words Text.isBlank t with
  | [] => none
  | ('#' :: _) :: _ => none
  | [sender] => some ⟨sender, [], none⟩
  | [sender, address] => some ⟨sender, address, none⟩
  | sender :: address :: helo :: _ => some ⟨sender, address, some helo⟩

def deliveriesOfText (t : Text) : List Delivery :=
  (Text.pieces (· == '\n') t).filterMap Delivery.ofLine?

/-- The deliveries that a run checks one after the other, and what ends the run when they are checked, if they are
not all there is. -/
structure Batch where
  deliveries : List Delivery
  fault : Option Fatal
deriving DecidableEq

/-- The deliveries of an input, up to its first line that is no text. -/
def Batch.ofBytes (input : List UInt8) : Batch :=
  match Text.ofBytes? input with
  | some t => ⟨deliveriesOfText t, none⟩
  | none => ⟨(Text.linesOfBytes input).filterMap Delivery.ofLine?, some .malformedInput⟩

namespace Delivery

variable {σ : Type} (E : Engine σ) (d : Delivery)

/-- Checks the delivery of a line. Its address is a word, so it has no blanks around it. -/
def checkLine (state : σ) : Outcome × Session σ :=
  match d.helo with
  | none => E.checkText d.sender d.address state
  | some helo =>
    match Address.ofText? d.address with
    | some client => E.check d.sender client (some helo) state
    | none => E.checkText d.sender d.address state

/-- Checks the delivery that a command is about. -/
def checkCommand (state : σ) : Outcome × Session σ :=
  E.checkFields d.sender d.address d.helo state

end Delivery

/-- The outcomes of deliveries that are checked one after the other, and the state that they leave the resolver in. -/
def outcomes {σ : Type} (check : Delivery → σ → Outcome × Session σ) : List Delivery → σ → List Outcome × σ
  | [], state => ([], state)
  | d :: ds, state =>
    let (outcome, session) := check d state
    let (rest, last) := outcomes check ds session.resolver
    (outcome :: rest, last)

/-- What the program can see of the world. -/
structure World (σ : Type) where
  input : List UInt8
  /-- The content of a file, or why it cannot be read. -/
  file : Text → Except Text Text
  /-- What answers queries, or why there is nothing that does. -/
  resolver : Except Text (Resolver σ)
  state : σ
  /-- The time of each reading of the clock, in nanoseconds since some fixed time. -/
  clock : Nat → Nat
  /-- The time, in seconds since the epoch. -/
  now : Nat

/-- What a run ends with. -/
inductive Conclusion where
  | misuse
  | fatal (f : Fatal)
  /-- Some answer would be kept beyond the times that a clock can tell, which the program does not survive. -/
  | overrun
  | done (code : Nat) (output : Output)
deriving DecidableEq

namespace Arguments

variable {σ : Type} (W : World σ) (a : Arguments)

/-- The options of a run, from its configuration and its arguments. -/
def options : Except Fatal Options :=
  match a.config with
  | none => .ok (a.adjust {})
  | some path =>
    match W.file path with
    | .error reason => .error (.unreadableConfig path reason)
    | .ok content =>
      match (Json.parse? content).bind Options.ofJson? with
      | some o => .ok (a.adjust o)
      | none => .error (.malformedConfig path)

def cacheSettings (o : Options) : Cache.Settings :=
  match o.cacheTtl with
  | some seconds => { ttl := seconds * Cache.second }
  | none => {}

/-- How a run checks a delivery. -/
def checkDelivery {τ : Type} (E : Engine τ) (d : Delivery) : τ → Outcome × Session τ :=
  if a.batch then d.checkLine E else d.checkCommand E

/-- The outcomes of deliveries under options, unless keeping an answer goes beyond the clock. -/
def check (o : Options) (R : Resolver σ) (deliveries : List Delivery) : Option (List Outcome) :=
  if a.cache then
    let E : Engine (Cache σ) := ⟨R.cached (cacheSettings o) W.clock, o, W.now⟩
    let (found, last) := outcomes (a.checkDelivery E) deliveries (.empty W.state)
    if last.hasOverrun then none else some found
  else
    some (outcomes (a.checkDelivery ⟨R, o, W.now⟩) deliveries W.state).1

/-- What a run checks; nothing if it asks for no checks. -/
def batchOf? : Option Batch :=
  if a.batch then some (.ofBytes W.input)
  else
    match a.command with
    | some (.check sender address helo) => some ⟨[⟨sender, address, helo⟩], none⟩
    | _ => none

def conclude (found : List Outcome) : Conclusion :=
  match Format.ofText? Format.all a.format with
  | some format => .done (exitCode found) (report a.out found format)
  | none => .fatal ⟨Format.unknownMessage Format.all [] a.format, []⟩

def readPolicy (record : Text) : Conclusion :=
  match Policy.parse record with
  | .error e => .fatal (.ofPolicy record e)
  | .ok p =>
    match Format.ofText? Format.forPolicy a.format with
    | some .json => .done 0 (.sendJson a.out p.toJson)
    | some _ => .done 0 (.print (humanPolicy p))
    | none => .fatal ⟨Format.unknownMessage Format.forPolicy " for parse".toList a.format, []⟩

/-- A run that checks senders. What ends it early comes after the checks before it. -/
def checkSenders (o : Options) (b : Batch) : Conclusion :=
  match W.resolver with
  | .error reason => .fatal (.noResolver reason)
  | .ok R =>
    match a.check W o R b.deliveries, b.fault with
    | none, _ => .overrun
    | some _, some f => .fatal f
    | some found, none => a.conclude found

/-- A run. Without anything to do it prints help. -/
def run : Conclusion :=
  match a.command with
  | some (.parse record) => a.readPolicy record
  -- the configuration is read even if there is nothing to check
  | _ =>
    match a.options W, a.batchOf? W with
    | .error f, _ => .fatal f
    | .ok _, none => .done 0 (.print (line Topic.program.text))
    | .ok o, some b => a.checkSenders W o b

end Arguments

def run {σ : Type} (W : World σ) (words : List Text) : Conclusion :=
  match Invocation.ofWords words with
  | .run a => a.run W
  | .help topic => .done 0 (.print topic.text)
  | .misuse => .misuse

end SenderPolicy.CommandLine
