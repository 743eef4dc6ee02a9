import SenderPolicy.Text.Basic

/-!
# Comma-separated values

Rows of fields between commas, each row ended by a line feed. A field is written between quotation marks if it
holds a character that would end it, with its own quotation marks doubled.
-/

namespace SenderPolicy.Csv

/-- A character that may not stand in a field without quotation marks around it. -/
def isSpecial (c : Char) : Bool :=
  c == '"' || c == ',' || c == '\r' || c == '\n'

def field (t : Text) : Text :=
  if t.any isSpecial then '"' :: Text.substitute '"' ['"', '"'] t ++ ['"'] else t

def row (fields : List Text) : Text :=
  Text.join [','] (fields.map field) ++ ['\n']

end SenderPolicy.Csv
