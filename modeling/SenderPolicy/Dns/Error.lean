import SenderPolicy.Text.Basic

/-!
# Failures of a lookup

That a name does not exist is an answer; every other failure means that the lookup did not complete.
-/

namespace SenderPolicy

/-- Why a lookup gave no records. -/
inductive DnsError where
  | timeout
  | noSuchDomain
  | serverFailure
  | refused
  | other (reason : Text)
deriving DecidableEq

namespace DnsError

def message : DnsError → Text
  | timeout => "lookup timed out".toList
  | noSuchDomain => "domain does not exist (NXDOMAIN)".toList
  | serverFailure => "server failure (SERVFAIL)".toList
  | refused => "query refused (REFUSED)".toList
  | other reason => reason

/-- A failure that another attempt may not meet. -/
def isTransient : DnsError → Bool
  | noSuchDomain => false
  | _ => true

end DnsError

end SenderPolicy
