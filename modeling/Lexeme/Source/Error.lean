import Lexeme.Text.Decimal

/-!
# Bad places in a source file

Why a span or a line number does not denote a part of a file.
-/

namespace Lexeme

open Text

/-- The ways in which a span can miss the text of a file. -/
inductive SourceError where
  /-- The span ends before it starts. -/
  | invalidSpan (start stop : Nat)
  /-- The span ends past the last byte. -/
  | outOfBounds (size start stop : Nat)
  /-- An end of the span lies inside a character. -/
  | notCharBoundary (start stop : Nat)
  /-- There is no such line; lines count from 1. -/
  | invalidLine (line lineCount : Nat)
deriving DecidableEq, Repr

namespace SourceError

def message : SourceError → String
  | invalidSpan start stop => "Invalid span: start " ++ decimal start ++ " > end " ++ decimal stop
  | outOfBounds size start stop =>
    "Span out of bounds: file has " ++ decimal size ++ " bytes, span is " ++ decimal start ++
      ".." ++ decimal stop
  | notCharBoundary start stop =>
    "Span " ++ decimal start ++ ".." ++ decimal stop ++ " is not on character boundaries"
  | invalidLine line lineCount =>
    "Invalid line number: " ++ decimal line ++ " (file has " ++ decimal lineCount ++ " lines)"

end SourceError

end Lexeme
