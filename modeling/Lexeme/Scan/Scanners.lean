import Lexeme.Scan.Lexer

/-!
# Scanners

The token ahead, scanned with nothing but the moves of a cursor. A scanner looks at the next
character, moves over the token, and takes its text as the slice from where it started. There is a
scanner for each family of tokens, and the next character decides between them. A slice that does
not consist of whole characters yields nothing.

A lexer cuts a piece from the text ahead instead of slicing the whole text, which comes to the same.

## Main definitions

* `Cursor.tokenSince?`: the token between two cursors.
* `Cursor.scanRun?`, `Cursor.scanString?`, `Cursor.scanPair?`, `Cursor.scanDoubled?`,
  `Cursor.scanStray`: the scanners.
* `Cursor.scanAhead?`: the choice between them.
* `Cursor.scanByMoves?`: blanks are skipped, and then a token is scanned.
-/

namespace Lexeme

open Text

namespace Cursor

/-- The token between `start` and the cursor, with the kind that its text has. -/
def tokenSince? (c start : Cursor) (kindOf : List Char → Kind) : Option Scan :=
  (c.sliceFrom start.position).map fun text =>
    ⟨⟨kindOf text, String.ofList text, start.spanTo c⟩, none, c⟩

/-- Numbers and words go on while `p` holds. -/
def scanRun? (p : Char → Bool) (kindOf : List Char → Kind) (c : Cursor) : Option Scan :=
  (c.advanceWhile p).tokenSince? c kindOf

/-- String literals go on to the next quote. Their value is what stands between the quotes. -/
def scanString? (c : Cursor) : Option Scan :=
  let opened := c.advance
  let inner := opened.advanceWhile (· != '"')
  (inner.sliceFrom opened.position).map fun text =>
    let (closed, stop) := inner.matchChar '"'
    let span := c.spanTo stop
    ⟨⟨.stringLiteral, String.ofList text, span⟩,
      if closed then none else some ⟨.unterminatedString, span⟩, stop⟩

/-- An operator that an equals sign makes another one. -/
def scanPair? (alone equal : Operator) (c : Cursor) : Option Scan :=
  let (longer, stop) := c.advance.matchChar '='
  stop.tokenSince? c fun _ => .operator (if longer then equal else alone)

/-- A character that starts no token. -/
def scanStray (c : Cursor) : Scan :=
  let stop := c.advance
  let span := c.spanTo stop
  ⟨⟨.identifier, String.ofList [c.current], span⟩,
    some ⟨.unexpectedCharacter c.current, span⟩, stop⟩

/-- An operator that is one character twice. If it stands there once, it starts no token. -/
def scanDoubled? (operator : Operator) (c : Cursor) : Option Scan :=
  if c.peek 1 = c.current then (advanceN 2 c).tokenSince? c fun _ => .operator operator
  else some c.scanStray

/-- The token at a cursor that has no blank ahead. -/
def scanAhead? (c : Cursor) : Option Scan :=
  if c.isAtEnd then some c.scanEnd
  else if isDigit c.current then c.scanRun? isDigit fun _ => .number
  else if c.current = '"' then c.scanString?
  else
    match Piece.equalsPair c.current with
    | some (alone, equal) => c.scanPair? alone equal
    | none =>
      match Piece.doubled c.current with
      | some operator => c.scanDoubled? operator
      | none =>
        match Piece.single c.current with
        | some kind => c.advance.tokenSince? c fun _ => kind
        | none =>
          if isIdentStart c.current then c.scanRun? isIdentContinue Piece.wordKind
          else some c.scanStray

/-- Skips blanks and scans the token ahead. -/
def scanByMoves? (c : Cursor) : Option Scan := c.skipBlanks.scanAhead?

end Cursor

end Lexeme
