import SenderPolicy.Address.Network
import SenderPolicy.Verdict

/-!
# Policies

The policy of a domain tells which clients may send mail in its name. It is a list of terms in the order of its
text. A term is a directive, that is a mechanism with the result it gives on a match, or a modifier.
-/

namespace SenderPolicy

/-- The result that a directive gives on a match. -/
inductive Qualifier where
  | pass
  | fail
  | softFail
  | neutral
deriving DecidableEq

namespace Qualifier

def sign : Qualifier → Char
  | pass => '+'
  | fail => '-'
  | softFail => '~'
  | neutral => '?'

def ofSign? (c : Char) : Option Qualifier :=
  [pass, fail, softFail, neutral].find? fun q => q.sign == c

def verdict : Qualifier → Verdict
  | pass => .pass
  | fail => .fail
  | softFail => .softFail
  | neutral => .neutral

/-- The sign of a qualifier is read back as that qualifier. -/
theorem ofSign?_sign (q : Qualifier) : ofSign? q.sign = some q := by
  cases q <;> rfl

end Qualifier

/-- The prefix lengths of a mechanism that looks addresses up, one for each family; the full width if absent. -/
structure Lengths where
  v4 : Option Nat
  v6 : Option Nat
deriving DecidableEq

namespace Lengths

def length4 (l : Lengths) : Nat :=
  l.v4.getD Network.width4

def length6 (l : Lengths) : Nat :=
  l.v6.getD Network.width6

/-- Some address of the list has the client in the network around it. -/
def coverAny (l : Lengths) (addresses : List Address) (client : Address) : Bool :=
  addresses.any fun a => Network.coversEither a l.length4 l.length6 client

end Lengths

/-- The name of a mechanism. -/
inductive MechanismKind where
  | all
  | includes
  | a
  | mx
  | ptr
  | ip4
  | ip6
  | existing
deriving DecidableEq

namespace MechanismKind

def word : MechanismKind → Text
  | all => "all".toList
  | includes => "include".toList
  | a => "a".toList
  | mx => "mx".toList
  | ptr => "ptr".toList
  | ip4 => "ip4".toList
  | ip6 => "ip6".toList
  | existing => "exists".toList

def every : List MechanismKind :=
  [all, includes, a, mx, ptr, ip4, ip6, existing]

/-- The kind that a word names, in letters of any case. -/
def ofWord? (t : Text) : Option MechanismKind :=
  every.find? fun k => k.word == Text.lower t

/-- Mechanisms that need a lookup and are charged for it. -/
def queriesDns : MechanismKind → Bool
  | all | ip4 | ip6 => false
  | _ => true

/-- The name of a mechanism is read back as its kind. -/
theorem ofWord?_word (k : MechanismKind) : ofWord? k.word = some k := by
  cases k <;> decide

end MechanismKind

/-- A condition on the client. A target is a template of a domain name. -/
inductive Mechanism where
  /-- Every client. -/
  | all
  /-- Clients that the policy of the target passes. -/
  | includes (target : Text)
  /-- Clients near an address of the target, or of the current domain if there is none. -/
  | a (target : Option Text) (lengths : Lengths)
  /-- Clients near an address of a mail exchange of the target. -/
  | mx (target : Option Text) (lengths : Lengths)
  /-- Clients with a confirmed reverse name at or below the target. -/
  | ptr (target : Option Text)
  /-- Clients in an IPv4 network. -/
  | ip4 (network : V4) (length : Option Nat)
  /-- Clients in an IPv6 network. -/
  | ip6 (network : V6) (length : Option Nat)
  /-- Every client, if the target has an IPv4 address. -/
  | existing (target : Text)
deriving DecidableEq

namespace Mechanism

def kind : Mechanism → MechanismKind
  | all => .all
  | includes _ => .includes
  | a _ _ => .a
  | mx _ _ => .mx
  | ptr _ => .ptr
  | ip4 _ _ => .ip4
  | ip6 _ _ => .ip6
  | existing _ => .existing

/-- The target that the mechanism was written with. -/
def target? : Mechanism → Option Text
  | includes target | existing target => some target
  | a target _ | mx target _ | ptr target => target
  | all | ip4 _ _ | ip6 _ _ => none

/-- The prefix lengths of a mechanism that looks addresses up. -/
def lengths? : Mechanism → Option Lengths
  | a _ lengths | mx _ lengths => some lengths
  | _ => none

end Mechanism

/-- A mechanism with the result of a match. -/
structure Directive where
  qualifier : Qualifier
  mechanism : Mechanism
deriving DecidableEq

/-- A term that says something about the whole policy. -/
inductive Modifier where
  /-- The policy of the target takes over if no directive matches. -/
  | redirect (target : Text)
  /-- The target publishes the explanation of a failure. -/
  | explanation (target : Text)
  /-- A modifier of another name, which is ignored. -/
  | unknown (name : Text) (value : Text)
deriving DecidableEq

/-- A term of a policy. -/
inductive Term where
  | directive (d : Directive)
  | modifier (m : Modifier)
deriving DecidableEq

/-- A policy: its terms in order. -/
structure Policy where
  terms : List Term
deriving DecidableEq

namespace Policy

def directives (p : Policy) : List Directive :=
  p.terms.filterMap fun
    | .directive d => some d
    | .modifier _ => none

/-- The target of the first redirection. -/
def redirect? (p : Policy) : Option Text :=
  p.terms.findSome? fun
    | .modifier (.redirect target) => some target
    | _ => none

/-- The target of the first explanation. -/
def explanation? (p : Policy) : Option Text :=
  p.terms.findSome? fun
    | .modifier (.explanation target) => some target
    | _ => none

end Policy

end SenderPolicy
