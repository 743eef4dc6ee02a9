import SenderPolicy.Evaluation.Request

/-!
# Names of the client

A reverse name of the client is confirmed if it leads back to the client's address. Only so many reverse names are
looked at as the options allow, and a lookup that fails confirms nothing.
-/

namespace SenderPolicy.Engine

variable {σ : Type} (E : Engine σ)

/-- The addresses of a name in the family of the client. -/
def addresses (name : Text) (client : Address) : Probe σ (Except DnsError (List Address)) := do
  match client with
  | .v4 _ => return (← Probe.ask E.resolver (.a name)).map (List.map Address.v4)
  | .v6 _ => return (← Probe.ask E.resolver (.aaaa name)).map (List.map Address.v6)

/-- A name leads to the client's address. -/
def confirms (client : Address) (name : Text) : Probe σ Bool := do
  match ← E.addresses name client with
  | .ok found => return found.contains client
  | .error _ => return false

/-- The reverse names of the client; none at all if their lookup failed. -/
def reverseNames (client : Address) : Probe σ (Option (List Text)) := do
  match (← Probe.ask E.resolver (.ptr client)).records with
  | .ok names => return some names
  | .error _ => return none

/-- The names among the first few that lead back to the client. -/
def confirmed (client : Address) (names : List Text) : Probe σ (List Text) :=
  (names.take E.options.maxPtrNames).filterM (E.confirms client)

/-- The name that stands for the client: the domain itself, else a name below it, else the first. -/
def preferred (domain : Text) (names : List Text) : Option Text :=
  (names.find? (Text.sameLetters · domain)).or <|
    (names.find? (DomainName.isSameOrBelow · domain)).or names.head?

/-- The confirmed name that templates of a request refer to. -/
def validatedName (r : Request) : Probe σ (Option Text) := do
  let names ← E.reverseNames r.client
  -- a failed lookup is as good as an answer without names here
  return preferred r.domain (← E.confirmed r.client (names.getD []))

end SenderPolicy.Engine
