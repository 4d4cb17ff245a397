import Lexeme.Source.Error
import Lexeme.Source.Snippet
import Lexeme.Source.Span
import Lexeme.Text.Bytes
import Lexeme.Text.Quoted

/-!
# Source files

A named text with an index of its lines. A line ends with a line feed; carriage returns before it
belong to the line but are not shown.

## Main definitions

* `SourceFile.lineStarts`: the byte offsets at which the lines start.
* `SourceFile.lineAt`: a line by its number, counted from 1.
* `SourceFile.extractRange`: the text between two byte offsets.
* `SourceFile.snippet`: the first line of a span, underlined.
-/

namespace Lexeme

open Text

/-- A named text. -/
structure SourceFile where
  name : String
  content : String
deriving DecidableEq, Repr, Inhabited

/-- The offsets just after each line feed, for a text that starts at `offset`. -/
def lineStartsAfter (offset : Nat) : List Char → List Nat
  | [] => []
  | c :: cs =>
    if c = '\n' then (offset + c.utf8Size) :: lineStartsAfter (offset + c.utf8Size) cs
    else lineStartsAfter (offset + c.utf8Size) cs

/-- The characters up to the first line feed. -/
def firstLine (cs : List Char) : List Char := cs.takeWhile (· != '\n')

/-- The line ends that are dropped from the end of a line. -/
def isLineEnd (c : Char) : Bool := c == '\n' || c == '\r'

namespace SourceFile

/-- The length of the text in bytes. -/
def size (f : SourceFile) : Nat := byteSize f.content.toList

/-- The byte offsets at which the lines start; the first line starts at 0. -/
def lineStarts (f : SourceFile) : List Nat := 0 :: lineStartsAfter 0 f.content.toList

def lineCount (f : SourceFile) : Nat := f.lineStarts.length

/-- The start of line `index`, counted from 0. -/
def lineStart (f : SourceFile) (index : Nat) : Option Nat := f.lineStarts[index]?

/-- Line `number`, counted from 1, without its line end. -/
def lineAt (f : SourceFile) : Nat → Option String
  | 0 => none
  | index + 1 => do
    let start ← f.lineStart index
    let stop := (f.lineStart (index + 1)).getD f.size
    let line ← byteRange start stop f.content.toList
    return String.ofList (trimEnd isLineEnd line)

/-- The text from byte `start` up to byte `stop`. A reversed range is reported before one that is
out of bounds, and that before one that cuts a character. -/
def extractRange (f : SourceFile) (start stop : Nat) : Except SourceError String :=
  if stop < start then .error (.invalidSpan start stop)
  else if f.size < stop then .error (.outOfBounds f.size start stop)
  else
    match byteRange start stop f.content.toList with
    | some range => .ok (String.ofList range)
    | none => .error (.notCharBoundary start stop)

/-- The number of columns that the first line of a range takes. -/
def firstLineWidth (range : String) : Nat :=
  (trimEnd (· == '\r') (firstLine range.toList)).length

/-- The line on which `span` starts, with carets under the first line of the span. -/
def snippet (f : SourceFile) (span : Span) (label : Option String) :
    Except SourceError Snippet :=
  match f.lineAt span.line with
  | none => .error (.invalidLine span.line f.lineCount)
  | some line => do
    let range ← f.extractRange span.start span.stop
    return ⟨line, span.line, span.column, span.column + firstLineWidth range, label⟩

/-- The file in one line: its name and the number of its lines. -/
def describe (f : SourceFile) : String :=
  "SourceFile \x7b name: " ++ quotedString f.name ++ ", line_count: " ++ decimal f.lineCount ++
    " \x7d"

end SourceFile

end Lexeme
