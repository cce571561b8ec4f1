import FiveStage.Text.Numeral
import FiveStage.Text.Shapeless

/-!
# Quoted texts

A text between double quotes in which quotes, backslashes, the common controls and characters
without a shape of their own are escaped, so that the reader sees exactly which characters it holds.
-/

namespace FiveStage.Text

/-- One character of a quoted text. -/
def escape (c : Char) : String :=
  if c = '\x00' then "\\0"
  else if c = '\t' then "\\t"
  else if c = '\r' then "\\r"
  else if c = '\n' then "\\n"
  else if c = '"' then "\\\""
  else if c = '\\' then "\\\\"
  else if isShapeless c then "\\u\x7b" ++ padded 16 1 c.toNat ++ "\x7d"
  else String.singleton c

/-- A text between double quotes, with what could not be read off the line escaped. -/
def quoted (text : String) : String :=
  "\"" ++ String.join (text.toList.map escape) ++ "\""

end FiveStage.Text
