import Lexeme.Diagnostic.Basic

/-!
# Lexical problems

What can be wrong with a piece of text, where it stands, and how it is reported: as an error when
scanning is strict, as a warning when it goes on.

## Main definitions

* `Flaw`: what is wrong, independent of the place.
* `Problem`: a flaw with its span.
* `Problem.toDiagnostic`, `Problem.toWarning`: the two reports.
* `Problem.render`: the error with its labelled source line.
-/

namespace Lexeme

open Text

/-- What can be wrong with a piece of text. -/
inductive Flaw where
  /-- No token starts with this character. -/
  | unexpectedCharacter (c : Char)
  /-- A string literal has no closing quote. -/
  | unterminatedString
deriving DecidableEq, Repr

namespace Flaw

def message : Flaw → String
  | unexpectedCharacter c => "unexpected character " ++ quotedChar c
  | unterminatedString => "unterminated string literal"

def code : Flaw → DiagnosticCode
  | unexpectedCharacter _ => .unexpectedCharacter
  | unterminatedString => .unterminatedString

/-- What is written behind the carets. -/
def label : Flaw → String
  | unexpectedCharacter _ => "not a valid token"
  | unterminatedString => "string starts here"

def notes : Flaw → List String
  | unexpectedCharacter _ => []
  | unterminatedString => ["escape sequences are not supported"]

/-- Advice. Half of a doubled operator suggests the whole. -/
def helps : Flaw → List String
  | unexpectedCharacter c =>
    if c = '&' then ["did you mean '&&'?"]
    else if c = '|' then ["did you mean '||'?"]
    else []
  | unterminatedString => ["add a closing '\"'"]

/-- What lenient scanning says about the flaw. -/
def warningMessage (f : Flaw) : String :=
  match f with
  | unexpectedCharacter _ => f.message ++ " treated as an identifier"
  | unterminatedString => f.message ++ " runs to end of input"

def warningCode : Flaw → DiagnosticCode
  | unexpectedCharacter _ => .characterAsIdentifier
  | unterminatedString => .stringToEnd

end Flaw

/-- A flaw and where it stands. -/
structure Problem where
  flaw : Flaw
  span : Span
deriving DecidableEq, Repr

namespace Problem

def message (p : Problem) : String := p.flaw.message

/-- The problem as an error. -/
def toDiagnostic (p : Problem) : Diagnostic where
  severity := .error
  message := p.message
  span := p.span
  code := some p.flaw.code
  notes := p.flaw.notes
  helps := p.flaw.helps

/-- The problem as a warning, without snippets and advice. -/
def toWarning (p : Problem) : Diagnostic :=
  .build .warning p.flaw.warningMessage [.code p.flaw.warningCode, .span p.span]

theorem toWarning_eq (p : Problem) : p.toWarning =
    { severity := .warning
      message := p.flaw.warningMessage
      span := p.span
      code := some p.flaw.warningCode } := rfl

/-- The problem as an error that shows its place in `file` with a label. -/
def diagnosticIn (p : Problem) (file : SourceFile) : Diagnostic :=
  match file.snippet p.span (some p.flaw.label) with
  | .ok snippet => p.toDiagnostic.addSnippet snippet
  | .error _ => p.toDiagnostic

/-- The full text of the error. -/
def render (p : Problem) (file : SourceFile) : String := (p.diagnosticIn file).render file

end Problem

end Lexeme
