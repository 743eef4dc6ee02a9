import SenderPolicy.CommandLine.Disk

/-!
# The program

The outer layer of the program: it reads the words of the command line, the input and the configuration, and
carries out what a run concludes. It has no access to the DNS of its own, so a run that needs answers ends with the
error that says so.
-/

open SenderPolicy SenderPolicy.CommandLine

/-- The number of a system error, which may be given as its negative. -/
def errorNumber (code : UInt32) : Nat :=
  if code < 0x80000000 then code.toNat else (0 - code).toNat

def systemReason (code : UInt32) (details : String) : Text :=
  let words :=
    match details.toList with
    | [] => []
    | c :: rest => c.toUpper :: rest
  words ++ " (os error ".toList ++ Text.ofNat (errorNumber code) ++ [')']

def fileReason : IO.Error → Text
  | .noFileOrDirectory _ code _ => systemReason code "no such file or directory"
  | .interrupted _ code details => systemReason code details
  | .alreadyExists _ code details | .invalidArgument _ code details | .permissionDenied _ code details
  | .resourceExhausted _ code details | .inappropriateType _ code details | .noSuchThing _ code details =>
    systemReason code details
  | .otherError code details | .resourceBusy code details | .resourceVanished code details
  | .unsupportedOperation code details | .hardwareFault code details | .unsatisfiedConstraints code details
  | .illegalOperation code details | .protocolError code details | .timeExpired code details =>
    systemReason code details
  | e => (toString e).toList

/-- An operation on files, whose failure is told. -/
def attempt {α : Type} (action : IO α) : IO (Except Text α) := do
  try
    return .ok (← action)
  catch e =>
    return .error (fileReason e)

def systemDisk : Disk IO where
  write path content := attempt (IO.FS.writeFile (String.ofList path) (String.ofList content))
  rename source target := attempt (IO.FS.rename (String.ofList source) (String.ofList target))

/-- What a run with given arguments can see of the world. -/
def worldFor (a : Arguments) : IO (World Unit) := do
  let input ← if a.batch then (← IO.getStdin).readBinToEnd else pure .empty
  let config ←
    match a.config with
    | some path => attempt (IO.FS.readFile (String.ofList path))
    | none => pure (.ok "")
  return {
    input := input.toList
    file := fun _ => config.map String.toList
    resolver := .error "no access to the DNS".toList
    state := ()
    clock := id
    now := 0 }

/-- Carries out a conclusion that has no file left to save. -/
def tell (c : Conclusion) : IO UInt32 := do
  match c with
  | .done _ output => IO.print (String.ofList output.printed)
  | .fatal f => IO.eprintln (String.ofList f.text)
  | .misuse => IO.eprintln "error: invalid arguments, try '--help'"
  | .overrun => IO.eprintln "error: the clock cannot tell when an answer expires"
  return c.exitCode.toUInt32

def main (args : List String) : IO UInt32 := do
  let words := args.map String.toList
  let world ←
    match Invocation.ofWords words with
    | .run a => worldFor a
    | _ => worldFor {}
  tell (← systemDisk.settle (run world words))
