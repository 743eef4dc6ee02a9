import SenderPolicy.Failure
import SenderPolicy.Policy.Error

/-!
# Fatal errors

What ends a run without a report: a message and its causes, each the cause of the one before.
-/

namespace SenderPolicy.CommandLine

/-- What ends a run without a report. -/
structure Fatal where
  message : Text
  causes : List Text := []
deriving DecidableEq

namespace Fatal

/-- A cause with its number, from a column on. -/
def numbered (cause : Text) (i : Nat) : Text :=
  let n := Text.ofNat i
  '\n' :: List.replicate (5 - n.length) ' ' ++ n ++ ": ".toList ++ cause

/-- The list of causes, numbered if there are several. -/
def causesText : List Text → Text
  | [] => []
  | [cause] => "\n\nCaused by:\n    ".toList ++ cause
  | causes => "\n\nCaused by:".toList ++ causes.zipIdx.flatMap fun (cause, i) => numbered cause i

def text (f : Fatal) : Text :=
  "Error: ".toList ++ f.message ++ causesText f.causes

/-- The text of a policy is none. -/
def ofPolicy (record : Text) (e : PolicyError) : Fatal :=
  ⟨"parse record ".toList ++ Text.quoted record, [e.message]⟩

/-- The configuration cannot be read, for a reason. -/
def unreadableConfig (path reason : Text) : Fatal :=
  ⟨"read config ".toList ++ path, [reason]⟩

/-- The configuration is no set of options. -/
def malformedConfig (path : Text) : Fatal :=
  ⟨"parse config ".toList ++ path, []⟩

/-- There is nothing that would answer queries, for a reason. -/
def noResolver (reason : Text) : Fatal :=
  ⟨"init system resolver".toList, [(Failure.noResolver reason).message, reason]⟩

/-- The input is no text. -/
def malformedInput : Fatal :=
  ⟨"read stdin".toList, ["stream did not contain valid UTF-8".toList]⟩

/-- The file for the report cannot be written, for a reason. -/
def unwritable (reason : Text) : Fatal :=
  ⟨reason, []⟩

/-- The file for the report cannot be put in its place, for a reason. -/
def notRenamed (source target reason : Text) : Fatal :=
  ⟨"rename ".toList ++ source ++ " -> ".toList ++ target, [reason]⟩

end Fatal

end SenderPolicy.CommandLine
