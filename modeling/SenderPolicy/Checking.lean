import SenderPolicy.Domain.Normal
import SenderPolicy.Evaluation.Basic
import SenderPolicy.Outcome

/-!
# Checking a sender

A query names a sender, the address of a client and perhaps a HELO identity. Its check starts with a fresh budget
at the normal form of the sender's domain and ends in an outcome, whatever happens on the way. A query whose
domain has no normal form, or whose address is none, is turned down without a single lookup.
-/

namespace SenderPolicy.Engine

variable {σ : Type} (E : Engine σ)

/-- The HELO identity of a query: the one given, else that of the options, else the domain. -/
def heloIdentity (helo : Option Text) (domain : Text) : Text :=
  match (helo.map Text.trim).filter (!·.isEmpty) with
  | some helo => Text.lower (Text.dropDots helo)
  | none => E.options.helo.getD domain

/-- The request that a query for a domain starts with. -/
def request (localPart domain : Text) (client : Address) (helo : Option Text) : Request where
  sender := Mailbox.text ⟨localPart, domain⟩
  domain := domain
  client := client
  helo := E.heloIdentity helo domain
  depth := 0

/-- The outcome of an evaluation that ended in a session. -/
def conclude (r : Request) (result : Except Failure Evaluation) (s : Session σ) : Outcome where
  sender := r.sender
  domain := r.domain
  client := some r.client
  helo := some r.helo
  verdict :=
    match result with
    | .ok evaluation => evaluation.verdict
    | .error failure => failure.verdict
  explanation :=
    match result with
    | .ok evaluation => evaluation.explanation
    | .error _ => none
  failure :=
    match result with
    | .ok _ => none
    | .error failure => some failure
  lookups := s.budget.lookups
  voids := s.budget.voids

/-- The session in which the check of a query begins. -/
def fresh (state : σ) : Session σ :=
  Session.start (Budget.fresh E.options.maxLookups E.options.maxVoids) state

def check (sender : Text) (client : Address) (helo : Option Text) (state : σ) : Outcome × Session σ :=
  let mailbox := Mailbox.ofSender sender
  match DomainName.normalize mailbox.domain with
  | .error failure => (.rejected sender (some client.canonical) failure, E.fresh state)
  | .ok domain =>
    let r := E.request mailbox.localPart domain client.canonical helo
    let (result, session) := (E.evaluate r).runFrom (E.fresh state)
    (conclude r result session, session)

/-- Checks a sender against the text of a client's address. -/
def checkText (sender address : Text) (state : σ) : Outcome × Session σ :=
  let address := Text.trim address
  match Address.ofText? address with
  | some client => E.check sender client none state
  | none => (.rejected sender none (.invalidAddress address), E.fresh state)

/-- Checks a sender against the text of a client's address, for a HELO identity that may be given. -/
def checkFields (sender address : Text) (helo : Option Text) (state : σ) : Outcome × Session σ :=
  match helo, Address.ofText? (Text.trim address) with
  | some helo, some client => E.check sender client (some helo) state
  | _, _ => E.checkText sender address state

end SenderPolicy.Engine
