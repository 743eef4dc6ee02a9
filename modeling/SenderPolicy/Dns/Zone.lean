import SenderPolicy.Dns.Resolver

/-!
# Zones

A zone is a resolver with its answers written down: for each type of record, what each name answers. A name may
answer its first queries one way and later ones another, so a zone remembers the queries it was sent. A name that
exists for another type of record has no records of the type asked for; a name that is not written down does not
exist.
-/

namespace SenderPolicy

/-- What a name answers to its first query, to its second, and so on; the last answer is repeated. -/
abbrev Zone.Script (α : Type) : Type :=
  List (Except DnsError (List α))

/-- The answers of names, by type of record. Names are written as keys, addresses as they are printed. -/
structure Zone where
  txt : List (Text × Zone.Script Text) := []
  a : List (Text × Zone.Script V4) := []
  aaaa : List (Text × Zone.Script V6) := []
  mx : List (Text × Zone.Script Exchange) := []
  ptr : List (Text × Zone.Script Text) := []

namespace Zone

def script? (Z : Zone) : (q : Query) → Option (Script q.Value)
  | .txt name => Z.txt.lookup (DomainName.key name)
  | .a name => Z.a.lookup (DomainName.key name)
  | .aaaa name => Z.aaaa.lookup (DomainName.key name)
  | .mx name => Z.mx.lookup (DomainName.key name)
  | .ptr address => Z.ptr.lookup address.text

/-- The name has answers for some type of record. -/
def hasName (Z : Zone) (name : Text) : Bool :=
  let key := DomainName.key name
  (Z.txt.lookup key).isSome || (Z.a.lookup key).isSome || (Z.aaaa.lookup key).isSome || (Z.mx.lookup key).isSome

/-- The answer to a query that has none written down. -/
def otherwise (Z : Zone) : (q : Query) → Answer q
  | .txt name => if Z.hasName name then .ok [] else .error .noSuchDomain
  | .a name => if Z.hasName name then .ok [] else .error .noSuchDomain
  | .aaaa name => if Z.hasName name then .ok [] else .error .noSuchDomain
  | .mx name => if Z.hasName name then .ok [] else .error .noSuchDomain
  | .ptr _ => .error .noSuchDomain

/-- The answer to a query that was sent so many times before. -/
def answer (Z : Zone) (q : Query) (times : Nat) : Answer q :=
  match Z.script? q with
  | some answers => (answers[times]?.or answers.getLast?).getD (Z.otherwise q)
  | none => Z.otherwise q

/-- The zone as a resolver. Its state is the queries it was sent, the last one first. -/
def resolver (Z : Zone) : Resolver (List Query) where
  ask q sent := (Z.answer q (sent.countP (·.key == q.key)), q :: sent)

end Zone

end SenderPolicy
