import Lexeme.Text.Decimal

/-!
# Text for a terminal

A terminal obeys some controls instead of showing them. Text that may hold anything is written with
these controls spelt out, so that it can only be shown.

## Main definitions

* `spelt`: one character.
* `spellControls`: a whole text.
-/

namespace Lexeme.Text

/-- One character as it is written to a terminal. The bell, the backspace, the form feed, the escape
and the delete character are spelt with two digits, the controls from 80 to 9f with their code point
in braces; all else stands for itself. -/
def spelt (c : Char) : String :=
  if c = '\x07' ∨ c = '\x08' ∨ c = '\x0c' ∨ c = '\x1b' ∨ c = '\x7f' then
    "\\x" ++ padLeft 2 '0' (hexadecimal c.toNat)
  else if 0x80 ≤ c.toNat ∧ c.toNat ≤ 0x9f then codePointInBraces c
  else String.singleton c

/-- The text with all controls spelt out that a terminal obeys. -/
def spellControls (text : String) : String := String.join (text.toList.map spelt)

end Lexeme.Text
