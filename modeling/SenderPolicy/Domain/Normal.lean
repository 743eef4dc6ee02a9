import SenderPolicy.Failure
import SenderPolicy.Idna.Basic

/-!
# Normal form of a domain

The form in which the domain of a query is checked: no blanks around it, no dots at its end, in ASCII and small
letters. A domain that has no such form, or is not fully qualified in it, is turned down.
-/

namespace SenderPolicy.DomainName

def normalize (domain : Text) : Except Failure Text :=
  let name := Text.dropDots (Text.trim domain)
  if name.isEmpty then .error .emptyDomain
  else
    match Idna.toAscii? name with
    | none => .error (.idna name)
    | some ascii =>
      match fault? ascii with
      | some fault => .error (.invalidDomain ascii fault)
      | none => .ok ascii

/-- A normal form is a fully qualified name. -/
theorem isValid_of_normalize {domain name : Text} (h : normalize domain = .ok name) : isValid name = true := by
  simp only [normalize] at h
  split at h
  · cases h
  · split at h
    · cases h
    · split at h
      · cases h
      · next hf =>
        cases h
        simp only [isValid, hf, Option.isNone_none]

end SenderPolicy.DomainName
