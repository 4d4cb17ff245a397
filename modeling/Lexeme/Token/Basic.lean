import Lexeme.Json
import Lexeme.Source.Span
import Lexeme.Token.Kind

/-!
# Tokens

A token is a kind, a text and the span it was read from. The text of a string literal is what
stands between its quotes.
-/

namespace Lexeme

open Text

/-- A token and where it stands. -/
structure Token where
  kind : Kind
  value : String
  span : Span
deriving DecidableEq, Repr

namespace Token

def isEof (t : Token) : Bool := t.kind = .eof

/-- The line of a listing. -/
def display (t : Token) : String :=
  t.kind.name ++ "('" ++ t.value ++ "') at " ++ decimal t.span.start ++ " (L" ++
    decimal t.span.line ++ ":C" ++ decimal t.span.column ++ ")"

/-- The token as an object: its kind, its text and where it starts. -/
def toJson (t : Token) : Json :=
  .object [("kind", .string t.kind.name), ("value", .string t.value),
    ("position", .number t.span.start), ("line", .number t.span.line),
    ("column", .number t.span.column)]

end Token

end Lexeme
