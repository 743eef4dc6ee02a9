import SenderPolicy.Address.Basic
import SenderPolicy.Dns.Error
import SenderPolicy.Domain.Name

/-!
# Queries and answers

A query asks for the records of one type, at a name or, for reverse names, at an address. The type of its
answer follows from it.
-/

namespace SenderPolicy

/-- A mail exchange: the lower the preference, the earlier it is tried. -/
structure Exchange where
  preference : Nat
  name : Text
deriving DecidableEq

namespace Exchange

/-- Exchanges are ordered by preference, then by the characters of their names. -/
def before (a b : Exchange) : Bool :=
  a.preference < b.preference || (a.preference == b.preference && Text.isUpTo a.name b.name)

end Exchange

/-- A question to a resolver. -/
inductive Query where
  | txt (name : Text)
  | a (name : Text)
  | aaaa (name : Text)
  | mx (name : Text)
  | ptr (address : Address)
deriving DecidableEq

namespace Query

abbrev Value : Query → Type
  | txt _ => Text
  | a _ => V4
  | aaaa _ => V6
  | mx _ => Exchange
  | ptr _ => Text

/-- The same query with its name replaced by the key of the name. Two queries with one key ask the same. -/
def key : Query → Query
  | txt name => txt (DomainName.key name)
  | a name => a (DomainName.key name)
  | aaaa name => aaaa (DomainName.key name)
  | mx name => mx (DomainName.key name)
  | ptr address => ptr address

def sameType : Query → Query → Bool
  | txt _, txt _ | a _, a _ | aaaa _, aaaa _ | mx _, mx _ | ptr _, ptr _ => true
  | _, _ => false

/-- The query as a line of a log. -/
def line : Query → Text
  | txt name => "TXT ".toList ++ name
  | a name => "A ".toList ++ name
  | aaaa name => "AAAA ".toList ++ name
  | mx name => "MX ".toList ++ name
  | ptr address => "PTR ".toList ++ address.text

end Query

/-- The answer to a query: its records in the order given, or a failure. -/
abbrev Answer (q : Query) : Type :=
  Except DnsError (List q.Value)

namespace Answer

/-- The records of an answer, where a name that does not exist has none. -/
def records {q : Query} : Answer q → Except DnsError (List q.Value)
  | .error .noSuchDomain => .ok []
  | answer => answer

/-- The answer is final for now: records, or that the name does not exist. -/
def isSettled {q : Query} : Answer q → Bool
  | .ok _ => true
  | .error e => !e.isTransient

end Answer

end SenderPolicy
