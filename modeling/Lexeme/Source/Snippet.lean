import Lexeme.Text.Decimal

/-!
# Snippets

A snippet shows one source line behind its number, and below it carets under some columns of the
line, with an optional label after them.

## Main definitions

* `Snippet.format`: the two lines of text.
* `Snippet.gutterWidth`: the room for the line number, so that both lines are aligned.
-/

namespace Lexeme

open Text

/-- A source line and the columns `startColumn` up to `endColumn` of it, counted from 1. Columns are
numbers of any size here; the written form has a character for each of them and is meant for columns
whose text fits in memory. -/
structure Snippet where
  line : String
  lineNumber : Nat
  startColumn : Nat
  endColumn : Nat
  label : Option String
deriving DecidableEq, Repr, Inhabited

namespace Snippet

/-- A snippet that marks one place. -/
def point (line : String) (lineNumber column : Nat) : Snippet :=
  ⟨line, lineNumber, column, column, none⟩

def withLabel (s : Snippet) (label : String) : Snippet := { s with label := some label }

/-- Line numbers take three columns, or more if they need them. -/
def gutterWidth (s : Snippet) : Nat := max 3 (decimal s.lineNumber).length

/-- The columns before the first caret. -/
def indent (s : Snippet) : Nat := s.startColumn - 1

/-- The number of carets. A snippet shows at least one. -/
def caretCount (s : Snippet) : Nat := max 1 (s.endColumn - s.startColumn)

def labelText (s : Snippet) : String :=
  match s.label with
  | some label => " " ++ label
  | none => ""

def sourceLine (s : Snippet) : String :=
  padLeft s.gutterWidth ' ' (decimal s.lineNumber) ++ " | " ++ s.line

def caretLine (s : Snippet) : String :=
  repeated s.gutterWidth ' ' ++ " | " ++ repeated s.indent ' ' ++ repeated s.caretCount '^' ++
    s.labelText

/-- The numbered source line, then the carets. -/
def format (s : Snippet) : String := s.sourceLine ++ "\n" ++ s.caretLine

end Snippet

end Lexeme
