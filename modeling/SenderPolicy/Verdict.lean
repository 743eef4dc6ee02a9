import SenderPolicy.Text.Blank

/-!
# Verdicts

The eight results of a check: five decisions of a policy, two kinds of error met on the way, and the result of
a query that was turned down before it began. Main statement: the word of a verdict is read back as that verdict.
-/

namespace SenderPolicy

/-- The result of a check. -/
inductive Verdict where
  | pass
  | fail
  | softFail
  | neutral
  | permError
  | tempError
  | none
  | invalid
deriving DecidableEq

namespace Verdict

def word : Verdict → Text
  | pass => "pass".toList
  | fail => "fail".toList
  | softFail => "softfail".toList
  | neutral => "neutral".toList
  | permError => "permerror".toList
  | tempError => "temperror".toList
  | none => "none".toList
  | invalid => "invalid".toList

def all : List Verdict :=
  [pass, fail, softFail, neutral, permError, tempError, none, invalid]

/-- A result that reports a problem rather than a decision of the policy. -/
def isError : Verdict → Bool
  | permError | tempError | invalid => true
  | _ => false

/-- The form in which words are compared: without blanks around it, in small letters. -/
def normalWord (t : Text) : Text :=
  Text.lower (Text.trim t)

def ofText? (t : Text) : Option Verdict :=
  all.find? fun v => v.word == normalWord t

/-- What is said about a text, given in its normal form, that names no verdict. -/
def unknownMessage (t : Text) : Text :=
  "unknown SPF result ".toList ++ Text.quoted t

/-- The word of a verdict is read back as that verdict. -/
theorem ofText?_word (v : Verdict) : ofText? v.word = some v := by
  cases v <;> decide

end Verdict

end SenderPolicy
