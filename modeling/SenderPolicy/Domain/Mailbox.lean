import SenderPolicy.Text.Blank

/-!
# Mailboxes

An envelope sender is a local part and a domain around its last at sign. A sender that gives no local part
speaks for the postmaster of the domain.
-/

namespace SenderPolicy

/-- The two parts of an envelope sender. -/
structure Mailbox where
  localPart : Text
  domain : Text
deriving DecidableEq

namespace Mailbox

/-- The local part of a sender that gives none. -/
def postmaster : Text := "postmaster".toList

/-- The parts of a sender, cut at the last at sign after the blanks around it are dropped. -/
def ofSender (sender : Text) : Mailbox :=
  let sender := Text.trim sender
  match Text.cutLast '@' sender with
  | some ([], domain) => ⟨postmaster, domain⟩
  | some (localPart, domain) => ⟨localPart, domain⟩
  | none => ⟨postmaster, sender⟩

def text (m : Mailbox) : Text :=
  m.localPart ++ '@' :: m.domain

end Mailbox

end SenderPolicy
