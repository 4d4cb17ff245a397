import Lexeme.Scan.Cursor

/-!
# Cursors on the move

A cursor is moved in five ways, in any order. All of them come down to passing some number of
characters.

## Main definitions

* `Cursor.Move`: the ways to move a cursor.
* `Cursor.move`, `Cursor.moves`: one move, and several in order.
-/

namespace Lexeme

namespace Cursor

/-- The ways to move a cursor. The test of `advanceWhile` is a function of the character alone. -/
inductive Move where
  | advance
  | advanceN (count : Nat)
  | advanceWhile (p : Char → Bool)
  | matchChar (x : Char)
  | skipBlanks

/-- One move. -/
def move (c : Cursor) : Move → Cursor
  | .advance => c.advance
  | .advanceN count => advanceN count c
  | .advanceWhile p => c.advanceWhile p
  | .matchChar x => (c.matchChar x).2
  | .skipBlanks => c.skipBlanks

/-- Several moves, in order. -/
def moves (c : Cursor) (ms : List Move) : Cursor := ms.foldl move c

theorem advanceN_of_isAtEnd {c : Cursor} (h : c.isAtEnd = true) (count : Nat) :
    advanceN count c = c := by
  cases count with
  | zero => rfl
  | succ count => rw [advanceN, if_pos h]

theorem advanceN_one (c : Cursor) : advanceN 1 c = c.advance := by
  unfold advanceN
  split
  · rename_i h
    cases hafter : c.after with
    | nil => simp [advance, hafter]
    | cons x rest => simp [isAtEnd, hafter] at h
  · rfl

theorem advanceN_advanceN (m n : Nat) (c : Cursor) :
    advanceN n (advanceN m c) = advanceN (m + n) c := by
  induction m generalizing c with
  | zero => rw [advanceN, Nat.zero_add]
  | succ m ih =>
    rw [Nat.succ_add, advanceN, advanceN]
    split
    · rename_i h
      exact advanceN_of_isAtEnd h n
    · exact ih c.advance

/-- A move passes some number of characters. -/
theorem exists_move_eq (c : Cursor) (m : Move) : ∃ count, c.move m = advanceN count c := by
  cases m with
  | advance => exact ⟨1, (advanceN_one c).symm⟩
  | advanceN count => exact ⟨count, rfl⟩
  | advanceWhile p => exact ⟨_, rfl⟩
  | matchChar x =>
    simp only [move, matchChar]
    split
    · exact ⟨1, (advanceN_one c).symm⟩
    · exact ⟨0, rfl⟩
  | skipBlanks => exact ⟨_, rfl⟩

/-- And so do several moves. -/
theorem exists_moves_eq (c : Cursor) (ms : List Move) :
    ∃ count, c.moves ms = advanceN count c := by
  induction ms generalizing c with
  | nil => exact ⟨0, rfl⟩
  | cons m ms ih =>
    obtain ⟨first, hfirst⟩ := exists_move_eq c m
    obtain ⟨more, hmore⟩ := ih (c.move m)
    refine ⟨first + more, ?_⟩
    rw [← advanceN_advanceN, ← hfirst]
    exact hmore

theorem source_moves (c : Cursor) (ms : List Move) : (c.moves ms).source = c.source := by
  obtain ⟨count, hcount⟩ := exists_moves_eq c ms
  rw [hcount, source_advanceN]

end Cursor

end Lexeme
