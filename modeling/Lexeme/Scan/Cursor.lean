import Lexeme.Text.Bytes
import Lexeme.Text.CharClass

/-!
# Cursors

A cursor stands between two characters of a text and knows its byte offset, line and column. It
only moves forward.

## Main definitions

* `Cursor.advance`, `Cursor.advanceN`, `Cursor.advanceWhile`, `Cursor.matchChar`: the moves.
* `Cursor.peek`: lookahead by any number of characters.
* `Cursor.sliceFrom`: the text from an earlier offset up to the cursor.
-/

namespace Lexeme

open Text

/-- A place in a text. `before` is what lies behind, nearest first; `after` is what lies ahead.
Lines and columns count from 1. -/
structure Cursor where
  before : List Char
  after : List Char
  position : Nat
  line : Nat
  column : Nat
deriving DecidableEq, Repr

namespace Cursor

/-- The cursor at the start of `text`. -/
def ofList (text : List Char) : Cursor := ⟨[], text, 0, 1, 1⟩

def ofString (text : String) : Cursor := ofList text.toList

/-- The whole text. -/
def source (c : Cursor) : List Char := c.before.reverse ++ c.after

def isAtEnd (c : Cursor) : Bool := c.after.isEmpty

/-- Moves past one character, if there is one. A line feed leads to column 1 of the next line. -/
def advance (c : Cursor) : Cursor :=
  match c.after with
  | [] => c
  | x :: rest =>
    { before := x :: c.before
      after := rest
      position := c.position + x.utf8Size
      line := if x = '\n' then c.line + 1 else c.line
      column := if x = '\n' then 1 else c.column + 1 }

/-- Moves past `count` characters, or to the end if there are fewer. -/
def advanceN : Nat → Cursor → Cursor
  | 0, c => c
  | count + 1, c => if c.isAtEnd then c else advanceN count c.advance

/-- Moves to the first character that does not satisfy `p`, or to the end. The test is a function of
the character alone: asking it does nothing else and keeps no count. -/
def advanceWhile (p : Char → Bool) (c : Cursor) : Cursor :=
  advanceN (c.after.takeWhile p).length c

/-- Moves past the blanks ahead. -/
def skipBlanks (c : Cursor) : Cursor := c.advanceWhile isBlank

/-- The character `offset` places ahead, read off the bytes; only if all bytes up to it are ASCII,
so that each of them is a character. -/
def peekAscii? (c : Cursor) (offset : Nat) : Option Char :=
  let front := (utf8 c.after).take (offset + 1)
  if front.length = offset + 1 ∧ front.all (· < 128) then
    front.getLast?.map fun byte => Char.ofNat byte.toNat
  else none

/-- The character `offset` places ahead, or NUL if there is none. -/
def peek (c : Cursor) (offset : Nat) : Char :=
  match c.peekAscii? offset with
  | some x => x
  | none => c.after[offset]?.getD '\x00'

def current (c : Cursor) : Char := c.peek 0

/-- Moves past `x` if it comes next, and tells whether it did. -/
def matchChar (x : Char) (c : Cursor) : Bool × Cursor :=
  if !c.isAtEnd && c.current == x then (true, c.advance) else (false, c)

/-- The text from byte `start` up to the cursor, if that is a stretch of whole characters. -/
def sliceFrom (c : Cursor) (start : Nat) : Option (List Char) :=
  if start ≤ c.position then byteRange start c.position c.source else none

@[simp]
theorem source_ofList (text : List Char) : (ofList text).source = text := rfl

theorem source_advance (c : Cursor) : c.advance.source = c.source := by
  unfold advance
  split <;> simp_all [source]

theorem source_advanceN (count : Nat) (c : Cursor) : (advanceN count c).source = c.source := by
  induction count generalizing c with
  | zero => rfl
  | succ count ih =>
    unfold advanceN
    split
    · rfl
    · rw [ih, source_advance]

theorem after_advance (c : Cursor) : c.advance.after = c.after.tail := by
  unfold advance
  split <;> simp_all

/-- What lies ahead after `count` moves. -/
theorem after_advanceN (count : Nat) (c : Cursor) :
    (advanceN count c).after = c.after.drop count := by
  induction count generalizing c with
  | zero => simp [advanceN]
  | succ count ih =>
    unfold advanceN
    split
    · simp_all [isAtEnd]
    · simp [ih, after_advance]

/-- What lies ahead after the blanks. -/
theorem after_skipBlanks (c : Cursor) :
    c.skipBlanks.after = c.after.drop (c.after.takeWhile isBlank).length :=
  after_advanceN _ _

end Cursor

end Lexeme
