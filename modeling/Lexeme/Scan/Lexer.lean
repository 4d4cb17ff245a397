import Lexeme.Diagnostic.Handler
import Lexeme.Log.Event
import Lexeme.Scan.Cursor
import Lexeme.Scan.Piece

/-!
# Lexers

A lexer stands in a text and hands out its tokens one by one. Each pull scans one token, together
with the problem it has, if any: a lenient pull yields the token and turns the problem into a
warning, a strict pull yields the problem instead. At the end of the text every pull yields an end
token.

## Main definitions

* `Cursor.scan`: one token ahead of a cursor, as a `Scan`.
* `Lexer.pull`: one token handed out, with what is logged.
* `Lexer.drain`: all pulls up to the end token.
* `Lexer.collect`, `Lexer.collectStrict`, `Lexer.check`: three ways to use a lexer up.
* `tokenize`, `tokenizeWith`, `tokenizeStrict`, `check`: the same for whole texts.
-/

namespace Lexeme

open Text

/-- One token, its problem, and the cursor behind it. -/
structure Scan where
  token : Token
  problem : Option Problem
  cursor : Cursor
deriving DecidableEq, Repr

namespace Cursor

/-- The end token, at a cursor with nothing ahead. -/
def scanEnd (c : Cursor) : Scan := ⟨⟨.eof, "", .point c.position c.line c.column⟩, none, c⟩

/-- The span from one cursor to a later one. -/
def spanTo (start stop : Cursor) : Span := ⟨start.position, stop.position, start.line, start.column⟩

/-- The token that a piece makes, at a cursor with that piece ahead. -/
def scanPiece (c : Cursor) (piece : Piece) : Scan :=
  let stop := c.advanceN piece.taken.length
  let span := c.spanTo stop
  ⟨⟨piece.kind, String.ofList piece.value, span⟩, piece.flaw.map (⟨·, span⟩), stop⟩

/-- The token at a cursor that has no blank ahead. -/
def scanHere (c : Cursor) : Scan :=
  match c.after with
  | [] => c.scanEnd
  | x :: text => c.scanPiece (Piece.cut x text)

/-- Skips blanks and scans the token ahead. -/
def scan (c : Cursor) : Scan := c.skipBlanks.scanHere

/-- Unless the end is reached, a token takes some of the text ahead. -/
theorem length_after_scanHere (c : Cursor) (h : c.scanHere.token.kind ≠ .eof) :
    c.scanHere.cursor.after.length < c.after.length := by
  unfold scanHere at h ⊢
  split at h
  · exact absurd rfl h
  · rename_i x text hx
    have htaken := List.length_pos_iff.mpr (Piece.taken_ne_nil x text)
    simp only [scanPiece, after_advanceN, hx, List.length_drop, List.length_cons]
    omega

/-- Unless the end is reached, a scan leaves less text ahead. -/
theorem length_after_scan (c : Cursor) (h : c.scan.token.kind ≠ .eof) :
    c.scan.cursor.after.length < c.after.length := by
  have hskip : c.skipBlanks.after.length ≤ c.after.length := by
    rw [after_skipBlanks, List.length_drop]
    omega
  exact Nat.lt_of_lt_of_le (length_after_scanHere c.skipBlanks h) hskip

end Cursor

/-- A place in a text, how many tokens were handed out, and whether the end token was. -/
structure Lexer where
  cursor : Cursor
  emitted : Nat
  finished : Bool
deriving DecidableEq, Repr

/-- What one pull yields: the token, its problem, what is logged, and the lexer afterwards. -/
structure Pull where
  token : Token
  problem : Option Problem
  events : List Event
  lexer : Lexer
deriving DecidableEq, Repr

namespace Pull

/-- What a strict pull logs: the same as a lenient one, and then the problem. -/
def strictEvents (p : Pull) : List Event :=
  p.events ++ p.problem.toList.map .strictFailure

/-- What a strict pull returns. -/
def strictResult (p : Pull) : Except Problem Token :=
  match p.problem with
  | some problem => .error problem
  | none => .ok p.token

/-- The warning that a lenient pull emits. -/
def warning? (p : Pull) : Option Diagnostic := p.problem.map Problem.toWarning

end Pull

namespace Lexer

/-- The lexer at the start of `text`. -/
def ofString (text : String) : Lexer := ⟨.ofString text, 0, false⟩

/-- Scans one token. The end of the input is announced when it is reached for the first time; every
token is counted and logged. -/
def pull (l : Lexer) : Pull :=
  let scan := l.cursor.scan
  let atEnd := scan.token.isEof
  let announcement := if atEnd && !l.finished then [Event.endOfInput (l.emitted + 1)] else []
  { token := scan.token
    problem := scan.problem
    events := announcement ++ [.token scan.token]
    lexer := ⟨scan.cursor, l.emitted + 1, l.finished || atEnd⟩ }

/-- The next token, as long as the end token was not handed out. -/
def next (l : Lexer) : Option Pull := if l.finished then none else some l.pull

/-- All pulls up to and with the end token. -/
def drain (l : Lexer) : List Pull :=
  let p := l.pull
  if _h : p.token.kind = .eof then [p] else p :: drain p.lexer
termination_by l.cursor.after.length
decreasing_by exact Cursor.length_after_scan l.cursor _h

/-- What an iteration still has to hand out. -/
def remaining (l : Lexer) : List Pull := if l.finished then [] else l.drain

/-- A bound on the number of tokens that an iteration still hands out. -/
def workLeft (l : Lexer) : Nat := if l.finished then 0 else l.cursor.after.length + 1

theorem workLeft_of_next {l : Lexer} {p : Pull} (h : l.next = some p) :
    p.lexer.workLeft < l.workLeft := by
  unfold next at h
  split at h
  · simp at h
  · rename_i hf
    obtain rfl := Option.some.inj h
    by_cases he : l.cursor.scan.token.kind = .eof
    · simp [workLeft, pull, Token.isEof, hf, he]
    · have := Cursor.length_after_scan l.cursor he
      simp [workLeft, pull, Token.isEof, hf, he]
      omega

/-- Iterates to the end. Warnings go to the handler, if there is one. -/
def collect (l : Lexer) (h : Option Handler) : List Token × Option Handler :=
  match _hp : l.next with
  | none => ([], h)
  | some p =>
    let (tokens, h) := collect p.lexer (h.map fun h => p.warning?.elim h h.emit)
    (p.token :: tokens, h)
termination_by l.workLeft
decreasing_by exact workLeft_of_next _hp

/-- Pulls strictly up to the end token or to the first problem. -/
def collectStrict (l : Lexer) : Except Problem (List Token) :=
  match l.pull.strictResult with
  | .error problem => .error problem
  | .ok token =>
    if _h : l.pull.token.kind = .eof then .ok [token]
    else (collectStrict l.pull.lexer).map (token :: ·)
termination_by l.cursor.after.length
decreasing_by exact Cursor.length_after_scan l.cursor _h

end Lexer

/-- How many good tokens a text has, and its problems. -/
structure CheckReport where
  tokens : Nat
  problems : List Problem
deriving DecidableEq, Repr

namespace CheckReport

/-- Counts one more pull, which came before the others. -/
def cons (p : Pull) (r : CheckReport) : CheckReport :=
  match p.strictResult with
  | .ok _ => { r with tokens := r.tokens + 1 }
  | .error problem => { r with problems := problem :: r.problems }

end CheckReport

/-- Pulls strictly up to the end token, going on after each problem. -/
def Lexer.check (l : Lexer) : CheckReport :=
  let p := l.pull
  if _h : p.token.kind = .eof then CheckReport.cons p ⟨0, []⟩
  else CheckReport.cons p (check p.lexer)
termination_by l.cursor.after.length
decreasing_by exact Cursor.length_after_scan l.cursor _h

/-- All tokens of a text, the end token last. -/
def tokenize (text : String) : List Token := ((Lexer.ofString text).collect none).1

/-- All tokens of a text, and the handler after the warnings about it. -/
def tokenizeWith (h : Handler) (text : String) : List Token × Handler :=
  let (tokens, h') := (Lexer.ofString text).collect (some h)
  (tokens, h'.getD h)

/-- All tokens of a text without problems, or else its first problem. -/
def tokenizeStrict (text : String) : Except Problem (List Token) :=
  (Lexer.ofString text).collectStrict

/-- The good tokens of a text counted, and all its problems. -/
def check (text : String) : CheckReport := (Lexer.ofString text).check

/-- The pulls of a strict run: it stops behind the first problem. -/
def strictPulls : List Pull → List Pull
  | [] => []
  | p :: rest => if p.problem.isSome then [p] else p :: strictPulls rest

end Lexeme
