import SenderPolicy.Policy.Basic

/-!
# Printing a policy

The text of a policy: its version and its terms, each after a space. A directive that passes shows no qualifier.
-/

namespace SenderPolicy

/-- What every policy starts with. -/
def Policy.version : Text := "v=spf1".toList

/-- A slash, or two, and a length, if there is one. -/
def Lengths.part (mark : Text) : Option Nat → Text
  | none => []
  | some n => mark ++ Text.ofNat n

/-- The lengths after their slashes. -/
def Lengths.text (l : Lengths) : Text :=
  part "/".toList l.v4 ++ part "//".toList l.v6

namespace Mechanism

/-- A colon and the target, if there is one. -/
def targetText : Option Text → Text
  | none => []
  | some target => ':' :: target

/-- What follows the name of a mechanism. -/
def argument : Mechanism → Text
  | all => []
  | includes target | existing target => targetText (some target)
  | a target lengths | mx target lengths => targetText target ++ lengths.text
  | ptr target => targetText target
  | ip4 network length => ':' :: network.text ++ Lengths.part "/".toList length
  | ip6 network length => ':' :: network.text ++ Lengths.part "/".toList length

def text (m : Mechanism) : Text :=
  m.kind.word ++ m.argument

end Mechanism

def Directive.text (d : Directive) : Text :=
  if d.qualifier = .pass then d.mechanism.text else d.qualifier.sign :: d.mechanism.text

namespace Modifier

def name : Modifier → Text
  | redirect _ => "redirect".toList
  | explanation _ => "exp".toList
  | unknown name _ => name

def value : Modifier → Text
  | redirect target | explanation target => target
  | unknown _ value => value

def text (m : Modifier) : Text :=
  m.name ++ '=' :: m.value

end Modifier

def Term.text : Term → Text
  | directive d => d.text
  | modifier m => m.text

def Policy.text (p : Policy) : Text :=
  version ++ p.terms.flatMap fun t => ' ' :: t.text

end SenderPolicy
