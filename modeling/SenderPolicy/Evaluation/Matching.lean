import SenderPolicy.Evaluation.Targets
import SenderPolicy.Sorting

/-!
# Matching a client

Whether the mechanisms of a policy match the client of a request. A mechanism that needs a lookup is charged
before it sends a query; an empty answer, or that a name does not exist, is counted.

An inclusion needs the evaluation of another policy, which is a parameter here.
-/

namespace SenderPolicy.Engine

variable {σ : Type} (E : Engine σ)

/-- The policy that a domain publishes, if it publishes one. -/
def policyAt (domain : Text) : Check σ (Option Policy) := do
  match (← Probe.ask E.resolver (.txt domain)).records with
  | .error e => throw (.lookup domain e)
  | .ok texts =>
    match Policy.ofAnswers texts with
    | .ok policy => return policy
    | .error e => throw (.policy domain e)

/-- The addresses of a name in the family of the client; that there are none is counted. -/
def countedAddresses (name : Text) (client : Address) : Check σ (List Address) := do
  match ← E.addresses name client with
  | .ok [] | .error .noSuchDomain =>
    Check.recordVoid
    return []
  | .ok found => return found
  | .error e => throw (.lookup name e)

/-- Some address of a name has the client in the network around it. -/
def nearName (name : Text) (lengths : Lengths) (client : Address) : Check σ Bool := do
  return lengths.coverAny (← E.countedAddresses name client) client

/-- Some address of an exchange of the list has the client in the network around it. Each exchange is charged,
and those after the first match are not looked at. -/
def nearExchange (lengths : Lengths) (client : Address) : List Exchange → Check σ Bool
  | [] => return false
  | x :: xs => do
    Check.charge
    if ← E.nearName x.name lengths client then return true
    nearExchange lengths client xs

/-- Some address of a mail exchange of a domain has the client in the network around it. -/
def nearAnyExchange (domain : Text) (lengths : Lengths) (client : Address) : Check σ Bool := do
  match (← Probe.ask E.resolver (.mx domain)).records with
  | .error e => throw (.lookup domain e)
  | .ok [] =>
    Check.recordVoid
    return false
  | .ok exchanges =>
    -- the limit is on the whole answer, and met before any exchange is charged
    if E.options.maxExchanges < exchanges.length then
      throw (.tooManyExchanges domain exchanges.length E.options.maxExchanges)
    E.nearExchange lengths client (Sorting.sort Exchange.before exchanges)

/-- A confirmed name of the client is a domain or lies below it. -/
def namedBelow (domain : Text) (client : Address) : Check σ Bool := do
  match ← E.reverseNames client with
  | none => return false
  | some [] =>
    Check.recordVoid
    return false
  | some names => return (← E.confirmed client names).any (DomainName.isSameOrBelow · domain)

def hasAddress (domain : Text) : Check σ Bool := do
  match (← Probe.ask E.resolver (.a domain)).records with
  | .ok [] =>
    Check.recordVoid
    return false
  | .ok _ => return true
  | .error e => throw (.lookup domain e)

/-- The policy of a domain passes the client. It is an error if the domain has no policy. -/
def passedBy (nested : Request → Check σ Evaluation) (r : Request) (domain : Text) : Check σ Bool := do
  match (← nested (r.descend domain)).verdict with
  | .pass => return true
  | .none => throw (.includeWithoutPolicy domain)
  | _ => return false

def matchesClient (nested : Request → Check σ Evaluation) (r : Request) : Mechanism → Check σ Bool
  | .all => return true
  | .includes target => do
    Check.charge
    passedBy nested r (← E.targetDomain r target)
  | .a target lengths => do
    Check.charge
    E.nearName (← E.domainOrOwn r target) lengths r.client
  | .mx target lengths => do
    Check.charge
    E.nearAnyExchange (← E.domainOrOwn r target) lengths r.client
  | .ptr target => do
    Check.charge
    E.namedBelow (← E.domainOrOwn r target) r.client
  | .ip4 network length => return Network.covers4 network (length.getD Network.width4) r.client
  | .ip6 network length => return Network.covers6 network (length.getD Network.width6) r.client
  | .existing target => do
    Check.charge
    E.hasAddress (← E.targetDomain r target)

/-- The first directive of a list that matches the client of a request. -/
def firstMatch (nested : Request → Check σ Evaluation) (r : Request) :
    List Directive → Check σ (Option Directive)
  | [] => return none
  | d :: ds => do
    if ← E.matchesClient nested r d.mechanism then return some d
    firstMatch nested r ds

end SenderPolicy.Engine
