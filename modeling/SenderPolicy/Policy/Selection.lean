import SenderPolicy.Policy.Parser

/-!
# Finding a policy

A domain may publish texts for many purposes. Those that start with the version of a policy, up to a blank or the
end, are policies, and a domain may publish one at most.
-/

namespace SenderPolicy.Policy

/-- The text, without the blanks around it, is the version alone or starts with the version and an ASCII blank. -/
def isPolicyText (t : Text) : Bool :=
  let t := Text.trim t
  Text.sameLetters (t.take version.length) version && ((t.drop version.length).head?.all Text.isAsciiBlank)

/-- The one policy among the texts, without the blanks around it. -/
def select (texts : List Text) : Except PolicyError (Option Text) :=
  match (texts.map Text.trim).filter isPolicyText with
  | [] => .ok none
  | [t] => .ok (some t)
  | ts => .error (.multipleRecords ts.length)

/-- The policy that is found among the texts, read. -/
def ofAnswers (texts : List Text) : Except PolicyError (Option Policy) := do
  (← select texts).mapM parse

end SenderPolicy.Policy
