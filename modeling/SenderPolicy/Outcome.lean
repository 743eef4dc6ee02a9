import SenderPolicy.Address.Basic
import SenderPolicy.Domain.Mailbox
import SenderPolicy.Failure

/-!
# Outcomes

What one query ends with: the identities that were checked, the verdict with its explanation or failure, and what
the check used up. A query that is turned down before its check begins shows its sender as given.

An outcome can be told in a trace field of a message: the verdict, followed by named fields that each end in a
semicolon.
-/

namespace SenderPolicy

/-- What one query ends with. -/
structure Outcome where
  /-- The envelope sender that was checked. -/
  sender : Text
  domain : Text
  client : Option Address
  helo : Option Text
  verdict : Verdict
  /-- Why the client fails, as the policy puts it. -/
  explanation : Option Text
  /-- Why there is no decision of the policy. -/
  failure : Option Failure
  lookups : Nat
  voids : Nat
deriving DecidableEq

namespace Outcome

/-- The outcome of a query that is turned down before its check begins. -/
def rejected (sender : Text) (client : Option Address) (failure : Failure) : Outcome where
  sender := Text.trim sender
  domain := (Mailbox.ofSender sender).domain
  client := client
  helo := none
  verdict := failure.verdict
  explanation := none
  failure := some failure
  lookups := 0
  voids := 0

/-- A value between quotation marks, of which it loses those of its own or shows them as something else. -/
def enclosed (mark : Text) (value : Text) : Text :=
  '"' :: Text.substitute '"' mark value ++ ['"']

def traceFields (o : Outcome) : List (Text × Text) :=
  (o.client.map fun client => ("client-ip".toList, client.text)).toList ++
    ("envelope-from".toList, enclosed [] o.sender) ::
    (o.helo.map fun helo => ("helo".toList, helo)).toList ++
    (o.failure.map fun failure => ("problem".toList, enclosed "'".toList failure.message)).toList

def trace (o : Outcome) : Text :=
  o.verdict.word ++ o.traceFields.flatMap fun (name, value) => ' ' :: name ++ '=' :: value ++ [';']

end Outcome

end SenderPolicy
