import Lexeme.Text.Decimal
import Lexeme.Text.EscapeTable

/-!
# Quoted literals in messages

A message that names a character or a text shows it between quotes. Controls with a short escape,
the backslash and the quote itself are written with a backslash; what would not show is written as
its code point in braces; all else stands for itself.

## Main definitions

* `escaped`: one character inside a literal.
* `quotedChar`, `quotedString`: the literals.
-/

namespace Lexeme.Text

/-- One character of a literal that is delimited by `quote`. -/
def escaped (quote c : Char) : String :=
  if c = '\x00' then "\\0"
  else if c = '\t' then "\\t"
  else if c = '\r' then "\\r"
  else if c = '\n' then "\\n"
  else if c = '\\' ∨ c = quote then String.ofList ['\\', c]
  else if escapeTable.contains c.toNat then codePointInBraces c
  else String.singleton c

/-- The character between single quotes. -/
def quotedChar (c : Char) : String := "'" ++ escaped '\'' c ++ "'"

/-- The text between double quotes. -/
def quotedString (text : String) : String :=
  "\"" ++ String.join (text.toList.map (escaped '"')) ++ "\""

end Lexeme.Text
