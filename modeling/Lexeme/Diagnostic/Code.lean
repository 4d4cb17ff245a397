import Lexeme.Text.Decimal

/-!
# Diagnostic codes

A code is a family letter and a number; the number is shown with at least four digits.
-/

namespace Lexeme

open Text

/-- A code such as `E0101`. -/
structure DiagnosticCode where
  family : String
  number : Nat
deriving DecidableEq, Repr, Inhabited

namespace DiagnosticCode

/-- The family, then the number with at least four digits. -/
def text (code : DiagnosticCode) : String := code.family ++ padLeft 4 '0' (decimal code.number)

/-- The code under the name of its type. -/
def describe (code : DiagnosticCode) : String := "DiagnosticCode(" ++ code.text ++ ")"

/-- A character that starts no token. -/
def unexpectedCharacter : DiagnosticCode := ⟨"E", 101⟩

/-- A string literal without its closing quote. -/
def unterminatedString : DiagnosticCode := ⟨"E", 102⟩

/-- A character that starts no token and was taken as an identifier. -/
def characterAsIdentifier : DiagnosticCode := ⟨"W", 101⟩

/-- A string literal that was taken to run to the end of the input. -/
def stringToEnd : DiagnosticCode := ⟨"W", 102⟩

end DiagnosticCode

end Lexeme
