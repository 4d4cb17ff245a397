import Lexeme.Proofs.Moves
import Lexeme.Proofs.Shape
import Lexeme.Proofs.Stream
import Lexeme.Scan.Scanners

/-!
# Moves against pieces

A lexer cuts a piece from the text ahead. Scanners that only move and slice take the same piece:
what they slice is the text that the piece takes, since a located cursor finds by its position what
it has passed, and what they see ahead is how the text goes on.

## Main statements

* `Cursor.Located.tokenSince?`: the slice behind a front part of the text is that front part.
* `Cursor.Located.scanRun?`, `Cursor.Located.scanString?`, `Cursor.Located.scanPair?`,
  `Cursor.Located.scanDoubled?`, `Cursor.scanStray_eq`: each scanner against its piece.
* `Cursor.Located.scanAhead?`: the choice between them.
* `Cursor.scanByMoves?_moves`: a token anywhere in a text.
-/

namespace Lexeme

open Text

namespace Cursor

variable {c : Cursor} {x : Char} {text : List Char}

theorem current_of_after (h : c.after = x :: text) : c.current = x := by
  simp [current, peek_eq, h]

theorem isAtEnd_of_after (h : c.after = x :: text) : c.isAtEnd = false := by
  simp [isAtEnd, h]

theorem after_advance_of_after (h : c.after = x :: text) : c.advance.after = text := by
  rw [after_advance, h, List.tail_cons]

/-- What lies between a located cursor and a later place is the text that was passed. -/
theorem Located.sliceFrom (h : c.Located) {passed rest : List Char}
    (hafter : c.after = passed ++ rest) :
    (Cursor.advanceN passed.length c).sliceFrom c.position = some passed := by
  have hslice := (h.follows passed.length).slice_eq
  rwa [hafter, List.take_left] at hslice

theorem Located.tokenSince? (h : c.Located) {taken rest : List Char}
    (hafter : c.after = taken ++ rest) (kindOf : List Char → Kind) :
    (Cursor.advanceN taken.length c).tokenSince? c kindOf =
      some (c.scanPiece (.plain (kindOf taken) taken rest)) := by
  rw [Cursor.tokenSince?, h.sliceFrom hafter]
  rfl

/-- A run starts with the next character, since that satisfies the test like all others. -/
theorem Located.scanRun? (h : c.Located) (hafter : c.after = x :: text) {p : Char → Bool}
    (hx : p x = true) (kindOf : List Char → Kind) :
    c.scanRun? p kindOf = some (c.scanPiece (.run kindOf p x text)) := by
  have htake : c.after.takeWhile p = x :: text.takeWhile p := by
    rw [hafter, List.takeWhile_cons_of_pos hx]
  have hsplit : c.after = (x :: text.takeWhile p) ++ text.dropWhile p := by
    rw [hafter, List.cons_append, List.takeWhile_append_dropWhile]
  rw [Cursor.scanRun?, advanceWhile, htake, h.tokenSince? hsplit]
  rfl

theorem Located.scanString? (h : c.Located) (hafter : c.after = '"' :: text) :
    c.scanString? = some (c.scanPiece (.string text)) := by
  have hopened := after_advance_of_after hafter
  have hsplit : c.advance.after = text.takeWhile (· != '"') ++ text.dropWhile (· != '"') := by
    rw [hopened, List.takeWhile_append_dropWhile]
  have hinner : c.advance.advanceWhile (· != '"') =
      Cursor.advanceN (text.takeWhile (· != '"')).length c.advance := by
    rw [advanceWhile, hopened]
  have hslice := h.advance.sliceFrom hsplit
  have hrest := after_advanceN_length hsplit
  -- The opening quote is one move, and so is the closing one.
  have hmoves : ∀ count, Cursor.advanceN count c.advance = Cursor.advanceN (count + 1) c := by
    intro count
    rw [← advanceN_one, advanceN_advanceN, Nat.add_comm]
  simp only [Cursor.scanString?, hinner, hslice, Option.map_some, matchChar_eq, hrest]
  cases hquote : text.dropWhile (· != '"') with
  | nil => simp [Piece.string, hquote, Cursor.scanPiece, hmoves]
  | cons y rest =>
    obtain rfl : y = '"' := eq_of_dropWhile_eq_cons hquote
    rw [← advanceN_one, advanceN_advanceN, hmoves]
    simp [Piece.string, hquote, Cursor.scanPiece]

/-- Without an equals sign, a single character stands alone. -/
theorem Located.scanPair? (h : c.Located) (hafter : c.after = x :: text)
    (alone equal : Operator) : c.scanPair? alone equal =
      some (c.scanPiece (.paired x '=' equal (.plain (.operator alone) [x]) text)) := by
  have hnext := after_advance_of_after hafter
  simp only [Cursor.scanPair?, matchChar_eq, hnext]
  by_cases hequal : text.head? = some '='
  · obtain ⟨rest, rfl⟩ := List.head?_eq_some_iff.mp hequal
    rw [if_pos hequal, ← advanceN_one, ← advanceN_one, advanceN_advanceN]
    exact @Located.tokenSince? c h [x, '='] rest hafter fun _ => .operator equal
  · rw [if_neg hequal, ← advanceN_one, Piece.paired_of_head?_ne hequal]
    exact @Located.tokenSince? c h [x] text hafter fun _ => .operator alone

theorem scanStray_eq (hafter : c.after = x :: text) :
    c.scanStray = c.scanPiece (.stray x text) := by
  rw [scanStray, current_of_after hafter, ← advanceN_one]
  rfl

/-- Behind the end there is only NUL, which is written twice by no operator. -/
theorem Located.scanDoubled? (h : c.Located) (hafter : c.after = x :: text) (hx : x ≠ '\x00')
    (operator : Operator) : c.scanDoubled? operator =
      some (c.scanPiece (.paired x x operator (.stray x) text)) := by
  have hpeek : c.peek 1 = x ↔ text.head? = some x := by
    rw [peek_eq, hafter, List.getElem?_cons_succ, ← List.head?_eq_getElem?]
    cases text with
    | nil => simp [hx.symm]
    | cons y rest => simp
  rw [Cursor.scanDoubled?, current_of_after hafter, scanStray_eq hafter]
  by_cases hdouble : text.head? = some x
  · obtain ⟨rest, rfl⟩ := List.head?_eq_some_iff.mp hdouble
    have htoken := @Located.tokenSince? c h [x, x] rest hafter fun _ => .operator operator
    rw [if_pos (hpeek.mpr hdouble), Piece.paired, if_pos rfl]
    exact htoken
  · rw [if_neg (mt hpeek.mp hdouble), Piece.paired_of_head?_ne hdouble]

/-- At a located cursor, moves and slices scan the token that is cut as a piece. -/
theorem Located.scanAhead? (h : c.Located) : c.scanAhead? = some c.scanHere := by
  cases hafter : c.after with
  | nil => simp [Cursor.scanAhead?, scanHere, isAtEnd, hafter]
  | cons x text =>
    simp only [Cursor.scanAhead?, scanHere, hafter, isAtEnd_of_after hafter,
      current_of_after hafter, Piece.cut, Bool.false_eq_true, if_false]
    by_cases hdigit : isDigit x = true
    · simp only [hdigit, if_true]
      exact h.scanRun? hafter hdigit _
    by_cases hquote : x = '"'
    · subst hquote
      exact h.scanString? hafter
    simp only [hdigit, hquote, Bool.false_eq_true, if_false]
    cases hpair : Piece.equalsPair x with
    | some pair => exact h.scanPair? hafter pair.1 pair.2
    | none =>
      cases hdoubled : Piece.doubled x with
      | some operator =>
        have hx : x ≠ '\x00' := by
          rintro rfl
          cases hdoubled
        exact h.scanDoubled? hafter hx operator
      | none =>
        cases hsingle : Piece.single x with
        | some kind =>
          rw [← advanceN_one]
          exact @Located.tokenSince? c h [x] text hafter fun _ => kind
        | none =>
          by_cases hstart : isIdentStart x = true
          · have hcontinue : isIdentContinue x = true := by simp [isIdentContinue, hstart]
            simp only [hstart, if_true]
            exact h.scanRun? hafter hcontinue _
          · simp only [hstart, Bool.false_eq_true, if_false]
            rw [scanStray_eq hafter]

theorem Located.scanByMoves? (h : c.Located) : c.scanByMoves? = some c.scan :=
  h.skipBlanks.scanAhead?

/-- Wherever moves lead in a text, moves and slices scan from there what pieces do. No slice cuts a
character. -/
theorem scanByMoves?_moves (text : String) (ms : List Move) :
    ((ofString text).moves ms).scanByMoves? = some ((ofString text).moves ms).scan :=
  ((located_ofList text.toList).moves ms).scanByMoves?

end Cursor

end Lexeme
