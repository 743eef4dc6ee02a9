import SenderPolicy.Text.Bytes
import SenderPolicy.Text.Hex

/-!
# Percent-encoding

A text with every byte that is not unreserved written as a percent sign and two hexadecimal digits.
-/

namespace SenderPolicy.Text

/-- An ASCII letter, a digit, or one of four marks: characters that stand for themselves. -/
def isUnreserved (c : Char) : Bool :=
  c.isAlphanum || c == '-' || c == '.' || c == '_' || c == '~'

/-- A byte as a percent sign and two hexadecimal digits. -/
def percentByte (b : UInt8) : Text :=
  ['%', capitalHexDigit (b.toNat / 16), capitalHexDigit (b.toNat % 16)]

/-- The text with each character that is not unreserved replaced by its bytes in hexadecimal. -/
def percentEncode (t : Text) : Text :=
  t.flatMap fun c => if isUnreserved c then [c] else (String.utf8EncodeChar c).flatMap percentByte

end SenderPolicy.Text
