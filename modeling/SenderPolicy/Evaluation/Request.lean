import SenderPolicy.Options.Basic
import SenderPolicy.Template.Expansion
import SenderPolicy.Evaluation.Session

/-!
# Requests

One level of a check: the domain whose policy is evaluated and the identity of the client. Levels below the first
differ from it in the domain and the depth only. An engine is what all levels share: a resolver, the options and
the time.
-/

namespace SenderPolicy

/-- One level of a check. -/
structure Request where
  /-- The envelope sender, in full. -/
  sender : Text
  domain : Text
  client : Address
  helo : Text
  depth : Nat
deriving DecidableEq

/-- The same request for another domain, one level below. -/
def Request.descend (r : Request) (domain : Text) : Request :=
  { r with domain := domain, depth := r.depth + 1 }

/-- What a check ends with when it does not fail. -/
structure Evaluation where
  verdict : Verdict
  explanation : Option Text
deriving DecidableEq

/-- What all levels of a check share. -/
structure Engine (σ : Type) where
  resolver : Resolver σ
  options : Options
  /-- The time, in seconds since the epoch. -/
  now : Nat

/-- The data that templates of a request refer to. -/
def Engine.transaction {σ : Type} (E : Engine σ) (r : Request) (validatedName : Option Text) : Transaction where
  sender := r.sender
  mailbox := Mailbox.ofSender r.sender
  domain := r.domain
  client := r.client
  helo := r.helo
  validatedName := validatedName
  receiver := E.options.receiverName
  now := E.now

end SenderPolicy
