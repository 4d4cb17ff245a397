import Lexeme.Scan.Lexer

/-!
# Counters of 32 bits

Lines and columns are counted in 32 bits. A run is the same as with numbers of any size, up to the
first move that would count past the largest number of 32 bits; there it is cut short and yields
nothing. The lexer is not repeated for this: each of its moves is guarded by the counter that it
adds to, a scan moves over the characters that it passes, and a run makes its pulls one after the
other. Offsets are not counted but measured, and need no bound.

## Main definitions

* `countUp?`: one more, as long as it fits 32 bits.
* `Cursor.advance?`, `Cursor.scan?`, `Lexer.pull?`: moves, scans and pulls with such counters.
* `Cursor.scanned`: the length of the way of a scan.
* `Lexer.pulls?`: several pulls in order.
* `tokenize?`, `tokenizeStrict?`, `check?`: what whole texts yield.
-/

namespace Lexeme

/-- The largest number of 32 bits. -/
def largestCount : Nat := UInt32.size - 1

/-- One more, unless the counter holds its largest number. -/
def countUp? (n : Nat) : Option Nat := if n < largestCount then some (n + 1) else none

namespace Cursor

/-- Moves past one character, if there is one. A line feed is counted by the line, any other
character by the column. -/
def advance? (c : Cursor) : Option Cursor :=
  match c.after with
  | [] => some c
  | x :: _ => (countUp? (if x = '\n' then c.line else c.column)).map fun _ => c.advance

/-- Moves past `count` characters, or to the end if there are fewer. -/
def advanceN? : Nat → Cursor → Option Cursor
  | 0, c => some c
  | count + 1, c => if c.isAtEnd then some c else c.advance?.bind (advanceN? count)

/-- How many characters a scan passes, blanks included. -/
def scanned (c : Cursor) : Nat := c.after.length - c.scan.cursor.after.length

/-- Scans the token ahead, past its characters one by one. -/
def scan? (c : Cursor) : Option Scan := (advanceN? c.scanned c).map fun _ => c.scan

end Cursor

namespace Lexer

/-- Scans one token. -/
def pull? (l : Lexer) : Option Pull := l.cursor.scan?.map fun _ => l.pull

/-- `count` pulls, one after the other. -/
def pulls? : Nat → Lexer → Option (List Pull)
  | 0, _ => some []
  | count + 1, l => l.pull?.bind fun p => (pulls? count p.lexer).map (p :: ·)

end Lexer

/-- All tokens of a text, the end token last. -/
def tokenize? (text : String) : Option (List Token) :=
  let l := Lexer.ofString text
  (l.pulls? l.remaining.length).map fun pulls => pulls.map Pull.token

/-- All tokens of a text without problems, or else its first problem. -/
def tokenizeStrict? (text : String) : Option (Except Problem (List Token)) :=
  let l := Lexer.ofString text
  (l.pulls? (strictPulls l.drain).length).map fun pulls => pulls.mapM Pull.strictResult

/-- The good tokens of a text counted, and all its problems. -/
def check? (text : String) : Option CheckReport :=
  let l := Lexer.ofString text
  (l.pulls? l.drain.length).map fun pulls => pulls.foldr CheckReport.cons ⟨0, []⟩

end Lexeme
