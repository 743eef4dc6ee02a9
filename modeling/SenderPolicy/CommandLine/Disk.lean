import SenderPolicy.CommandLine.Run

/-!
# Files

How the file of a report comes about. It is written under another name and then renamed, so that at no time a part
of a report stands under its name. The operations on files are parameters, in any monad.
-/

namespace SenderPolicy.CommandLine

/-- Operations on files. One that fails tells why. -/
structure Disk (m : Type → Type) where
  /-- Writes a file, by its path and content. -/
  write : Text → Text → m (Except Text Unit)
  /-- Gives a file another path, in place of any file there. -/
  rename : Text → Text → m (Except Text Unit)

namespace Disk

variable {m : Type → Type} [Monad m] (D : Disk m)

def temporary (path : Text) : Text :=
  path ++ ".tmp".toList

/-- Saves a file, or tells what went wrong. -/
def save (path content : Text) : m (Option Fatal) := do
  match ← D.write (temporary path) content with
  | .error reason => return some (.unwritable reason)
  | .ok _ =>
    match ← D.rename (temporary path) path with
    | .error reason => return some (.notRenamed (temporary path) path reason)
    | .ok _ => return none

/-- Saves the file that a conclusion describes, if there is one. -/
def settle : Conclusion → m Conclusion
  | .done code output => do
    match output.saved with
    | none => return .done code output
    | some (path, content) =>
      match ← D.save path content with
      | some f => return .fatal f
      | none => return .done code output
  | c => return c

end Disk

namespace Conclusion

/-- The exit code of a run that has been carried out. -/
def exitCode : Conclusion → Nat
  | misuse => 2
  | fatal _ => 1
  | overrun => 101
  | done code _ => code

end Conclusion

end SenderPolicy.CommandLine
