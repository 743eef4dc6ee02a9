import SenderPolicy.Text.Basic

/-!
# Text as bytes

The UTF-8 form of a text: its bytes, how many they are, and reading them back. Lengths in names and labels are
counted in these bytes.
-/

namespace SenderPolicy.Text

def bytes (t : Text) : List UInt8 :=
  t.flatMap String.utf8EncodeChar

def byteLength : Text → Nat
  | [] => 0
  | c :: t => c.utf8Size + byteLength t

/-- The text whose UTF-8 form the bytes are, if they are one. -/
def ofBytes? (bs : List UInt8) : Option Text :=
  (String.fromUTF8? ⟨bs.toArray⟩).map String.toList

/-- The lines of bytes, up to the first line that is no text. -/
def linesOfBytes (bs : List UInt8) : List Text :=
  (((bs.splitOnP (· == 10)).map ofBytes?).takeWhile (·.isSome)).filterMap id

/-- A text has as many bytes as its length in bytes says. -/
theorem length_bytes (t : Text) : (bytes t).length = byteLength t := by
  induction t with
  | nil => rfl
  | cons c t ih =>
    simp only [bytes, byteLength, List.flatMap_cons, List.length_append, String.length_utf8EncodeChar] at ih ⊢
    omega

end SenderPolicy.Text
