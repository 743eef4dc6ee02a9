import SenderPolicy.Template.Basic

/-!
# Errors of a policy

Why a text is no policy, or a list of texts holds more than one.
-/

namespace SenderPolicy

/-- Why there is no policy. -/
inductive PolicyError where
  | multipleRecords (count : Nat)
  | invalidVersion
  | unknownMechanism (term : Text)
  | unexpectedArgument (mechanism : Text)
  | missingTarget (owner : Text)
  | invalidTarget (target : Text) (reason : Text)
  | invalidIp4 (value : Text)
  | invalidIp6 (value : Text)
  | invalidLength (value : Text)
  | duplicateModifier (name : Text)
  | invalidModifierName (name : Text)
  | qualifiedModifier (name : Text)
  | template (error : Template.Error)
deriving DecidableEq

def PolicyError.message : PolicyError → Text
  | multipleRecords count => Text.ofNat count ++ " TXT records start with v=spf1".toList
  | invalidVersion => "record does not start with v=spf1".toList
  | unknownMechanism term => "unknown mechanism ".toList ++ Text.quoted term
  | unexpectedArgument mechanism => "mechanism ".toList ++ Text.quoted mechanism ++ " takes no argument".toList
  | missingTarget owner => "mechanism ".toList ++ Text.quoted owner ++ " requires a domain-spec".toList
  | invalidTarget target reason =>
    "invalid domain-spec ".toList ++ Text.quoted target ++ ": ".toList ++ reason
  | invalidIp4 value => "invalid IPv4 network ".toList ++ Text.quoted value
  | invalidIp6 value => "invalid IPv6 network ".toList ++ Text.quoted value
  | invalidLength value => "invalid CIDR length ".toList ++ Text.quoted value
  | duplicateModifier name => "modifier ".toList ++ Text.quoted name ++ " appears more than once".toList
  | invalidModifierName name => "invalid modifier name ".toList ++ Text.quoted name
  | qualifiedModifier name => "modifier ".toList ++ Text.quoted name ++ " cannot carry a qualifier".toList
  | template error => error.message

end SenderPolicy
