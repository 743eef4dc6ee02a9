import SenderPolicy.Dns.Error
import SenderPolicy.Domain.Name
import SenderPolicy.Policy.Error
import SenderPolicy.Verdict

/-!
# Failures of a check

Why a check ended without a decision of a policy. Each failure has a wording and a verdict: a query that was
turned down is invalid, a lookup that did not complete a temporary error, and all else a permanent error.
-/

namespace SenderPolicy

/-- Why a check ended without a decision. -/
inductive Failure where
  | emptyDomain
  | idna (domain : Text)
  | invalidDomain (domain : Text) (fault : DomainName.Fault)
  | invalidAddress (input : Text)
  | policy (domain : Text) (error : PolicyError)
  | template (error : Template.Error)
  | lookupLimit (limit : Nat)
  | voidLimit (limit : Nat)
  | depthLimit (limit : Nat)
  | tooManyExchanges (domain : Text) (count limit : Nat)
  | includeWithoutPolicy (domain : Text)
  | redirectWithoutPolicy (domain : Text)
  | lookup (name : Text) (error : DnsError)
  | noResolver (reason : Text)
deriving DecidableEq

namespace Failure

def message : Failure → Text
  | emptyDomain => "domain is empty".toList
  | idna domain => "domain IDNA conversion failed for ".toList ++ domain
  | invalidDomain domain fault =>
    "domain ".toList ++ domain ++ " is not a valid FQDN: ".toList ++ fault.message
  | invalidAddress input =>
    "client address ".toList ++ Text.quoted input ++ " is not a valid IPv4 or IPv6 address".toList
  | policy domain error => "invalid SPF record for ".toList ++ domain ++ ": ".toList ++ error.message
  | template error => "macro expansion failed: ".toList ++ error.message
  | lookupLimit limit => "DNS lookup limit exceeded (".toList ++ Text.ofNat limit ++ ")".toList
  | voidLimit limit => "void lookup limit exceeded (".toList ++ Text.ofNat limit ++ ")".toList
  | depthLimit limit => "include/redirect recursion deeper than ".toList ++ Text.ofNat limit
  | tooManyExchanges domain count limit =>
    domain ++ " has ".toList ++ Text.ofNat count ++ " MX records, more than ".toList ++ Text.ofNat limit ++
      " allowed".toList
  | includeWithoutPolicy domain => "included domain ".toList ++ domain ++ " has no SPF record".toList
  | redirectWithoutPolicy domain => "redirect target ".toList ++ domain ++ " has no SPF record".toList
  | lookup name error => "DNS lookup failed for ".toList ++ name ++ ": ".toList ++ error.message
  | noResolver reason => "resolver initialization failed: ".toList ++ reason

def verdict : Failure → Verdict
  | emptyDomain | idna _ | invalidDomain _ _ | invalidAddress _ => .invalid
  | lookup _ _ | noResolver _ => .tempError
  | _ => .permError

/-- A failure is never a decision. -/
theorem isError_verdict (f : Failure) : f.verdict.isError = true := by
  cases f <;> rfl

end Failure

end SenderPolicy
