import Lexeme.Proofs.Lookahead
import Mathlib.Data.List.TakeWhile

/-!
# What moves do to a cursor

However a cursor is moved through a text, it stands between two characters: its position is where
they meet in bytes, and line and column are those of the text before it. So the remaining text and
the text since an earlier position can always be cut out. Each move passes a stretch of what lies
ahead, and it is known for each where this stretch ends.

Every move passes some number of characters and thus keeps a cursor located. The end of the text is
seen as NUL, which may also stand in the text; a move that asks for the next character tells the two
apart by asking for the end first.

## Main definitions

* `Cursor.StandsIn`: the place of a cursor in a text.
* `Cursor.Follows`: a cursor that comes from another one.
* `Cursor.Move.Passes`: the stretch that a move passes.
* `Cursor.Tracks`: all that holds of a cursor on its way through a text.

## Main statements

* `Cursor.matchChar_eq`, `Cursor.advanceWhile_eq`: moves that ask for the next character.
* `Cursor.passes_move`: where a move ends.
* `Cursor.tracks_source`: what holds after any moves from the start of a text.
-/

namespace Lexeme

open Text

namespace Cursor

variable {c : Cursor}

/-- The cursor stands between two characters of `text`: there is a cut at its position, behind which
the rest lies ahead, and line and column are those of what comes before the cut. Line and column do
not exceed the number of characters by more than one. -/
structure StandsIn (c : Cursor) (text : List Char) : Prop where
  position_le : c.position ≤ byteSize text
  cut : ∃ front, splitAtByte c.position text = some (front, c.after) ∧
    c.line = 1 + front.count '\n' ∧ c.column = 1 + (lastLine front).length
  isAtEnd_iff : c.isAtEnd = true ↔ byteSize text ≤ c.position
  line_le : c.line ≤ 1 + text.length
  column_le : c.column ≤ 1 + text.length

/-- The cursor comes from `c` and has passed `passed`, which can be cut out from there on. -/
structure Follows (c' c : Cursor) (passed : List Char) : Prop where
  after_eq : c.after = passed ++ c'.after
  position_eq : c'.position = c.position + byteSize passed
  slice_eq : c'.sliceFrom c.position = some passed

/-- The stretch that a move passes when `rest` is left ahead of it. -/
def Move.Passes (passed rest : List Char) : Move → Prop
  | .advance => passed.length = min 1 (passed ++ rest).length
  | .advanceN count => passed.length = min count (passed ++ rest).length
  | .advanceWhile p => (∀ x ∈ passed, p x = true) ∧ ∀ x ∈ rest.head?, p x = false
  | .matchChar x => passed = [x] ∨ passed = [] ∧ rest.head? ≠ some x
  | .skipBlanks => (∀ x ∈ passed, isBlank x = true) ∧ ∀ x ∈ rest.head?, isBlank x = false

/-- The cursor stands in the text, whatever moves come later follow it, and the next one passes what
it has to pass. A character is matched only if it comes next, and otherwise nothing changes; to move
on while `p` holds is to ask for `p` at each place. -/
structure Tracks (c : Cursor) (text : List Char) : Prop where
  stands : c.StandsIn text
  later : ∀ ms, ∃ passed, (c.moves ms).Follows c passed
  step : ∀ m, ∃ passed, (c.move m).Follows c passed ∧ m.Passes passed (c.move m).after
  matchChar_eq : ∀ x, c.matchChar x =
    if c.after.head? = some x then (true, c.advance) else (false, c)
  advanceWhile_eq : ∀ p, c.advanceWhile p =
    if !c.isAtEnd && p c.current then c.advance.advanceWhile p else c

/-! ## Places -/

theorem Located.isAtEnd_iff (h : c.Located) :
    c.isAtEnd = true ↔ byteSize c.source ≤ c.position := by
  have hsize : byteSize c.source = c.position + byteSize c.after := by
    rw [source, byteSize_append, byteSize_reverse, h.position]
  cases hafter : c.after with
  | nil => simp [isAtEnd, hafter, hsize]
  | cons x rest =>
    have hpos : 0 < byteSize c.after := byteSize_pos (by simp [hafter])
    simp only [isAtEnd, hafter, List.isEmpty_cons, Bool.false_eq_true, false_iff]
    omega

theorem Located.standsIn (h : c.Located) : c.StandsIn c.source := by
  have hlength : c.source.length = c.before.length + c.after.length := by simp [source]
  have hcut := splitAtByte_append c.before.reverse c.after
  rw [byteSize_reverse, ← h.position] at hcut
  have hlastLine : (lastLine c.before.reverse).length =
      (c.before.takeWhile (· != '\n')).length := by
    rw [lastLine, List.reverse_reverse, List.length_reverse]
  have hcount : c.before.count '\n' ≤ c.before.length := List.count_le_length
  have hline := (List.takeWhile_prefix (l := c.before) (· != '\n')).length_le
  refine ⟨?position, ⟨c.before.reverse, hcut, ?cutLine, ?cutColumn⟩, h.isAtEnd_iff, ?line, ?column⟩
  case position =>
    rw [h.position, source, byteSize_append, byteSize_reverse]
    exact Nat.le_add_right _ _
  case cutLine => rw [h.line, List.count_reverse]
  case cutColumn => rw [h.column, hlastLine]
  case line =>
    rw [h.line]
    omega
  case column =>
    rw [h.column]
    omega

theorem Located.follows (h : c.Located) (count : Nat) :
    (Cursor.advanceN count c).Follows c (c.after.take count) := by
  have hposition : (Cursor.advanceN count c).position =
      c.position + byteSize (c.after.take count) := by
    rw [(h.advanceN count).position, before_advanceN, byteSize_append, byteSize_reverse, h.position,
      Nat.add_comm]
  have hrange := byteRange_append c.before.reverse (c.after.take count) (c.after.drop count)
  rw [List.append_assoc, List.take_append_drop, byteSize_reverse, ← h.position] at hrange
  refine ⟨?_, hposition, ?_⟩
  · rw [after_advanceN, List.take_append_drop]
  · rw [sliceFrom, if_pos (by omega), source_advanceN, hposition]
    exact hrange

/-! ## Moves -/

/-- A character is matched if it comes next. At the end, none does. -/
theorem matchChar_eq (c : Cursor) (x : Char) : c.matchChar x =
    if c.after.head? = some x then (true, c.advance) else (false, c) := by
  cases h : c.after with
  | nil => simp [matchChar, isAtEnd, h]
  | cons y rest => simp [matchChar, isAtEnd, current, peek_eq, h]

/-- The loop that asks at each place whether to go on. -/
theorem advanceWhile_eq (c : Cursor) (p : Char → Bool) : c.advanceWhile p =
    if !c.isAtEnd && p c.current then c.advance.advanceWhile p else c := by
  cases h : c.after with
  | nil => simp [advanceWhile, advanceN, isAtEnd, h]
  | cons x rest =>
    have hcurrent : c.current = x := by simp [current, peek_eq, h]
    by_cases hx : p x = true
    · simp [advanceWhile, advanceN, isAtEnd, hcurrent, h, hx, after_advance]
    · simp [advanceWhile, advanceN, isAtEnd, hcurrent, h, hx]

theorem passes_advanceWhile {p : Char → Bool} {passed : List Char}
    (h : c.after = passed ++ (c.advanceWhile p).after) :
    (∀ x ∈ passed, p x = true) ∧ ∀ x ∈ (c.advanceWhile p).after.head?, p x = false := by
  have hrest : (c.advanceWhile p).after = c.after.dropWhile p :=
    after_advanceN_length List.takeWhile_append_dropWhile.symm
  rw [hrest] at h ⊢
  have hsplit : passed ++ c.after.dropWhile p =
      c.after.takeWhile p ++ c.after.dropWhile p := by
    rw [← h, List.takeWhile_append_dropWhile]
  have hpassed : passed = c.after.takeWhile p := List.append_cancel_right hsplit
  constructor
  · rw [hpassed]
    exact fun x hx => List.mem_takeWhile_imp hx
  · exact head?_dropWhile_eq_false p c.after

/-- A move passes the stretch that it has to pass. -/
theorem passes_move {m : Move} {passed : List Char} (h : c.after = passed ++ (c.move m).after) :
    m.Passes passed (c.move m).after := by
  cases m with
  | advance =>
    have hlength := congrArg List.length h
    simp only [move, after_advance, List.length_append, List.length_tail] at hlength
    simp only [Move.Passes, ← h]
    omega
  | advanceN count =>
    have hlength := congrArg List.length h
    simp only [move, after_advanceN, List.length_append, List.length_drop] at hlength
    simp only [Move.Passes, ← h]
    omega
  | advanceWhile p => exact passes_advanceWhile h
  | skipBlanks => exact passes_advanceWhile h
  | matchChar x =>
    by_cases hx : c.after.head? = some x
    · obtain ⟨rest, hafter⟩ := List.head?_eq_some_iff.mp hx
      have hrest : (c.move (.matchChar x)).after = rest := by
        rw [move, matchChar_eq, if_pos hx, after_advance, hafter, List.tail_cons]
      rw [hafter, hrest] at h
      have hsplit : passed ++ rest = [x] ++ rest := h.symm
      exact .inl (List.append_cancel_right hsplit)
    · have hrest : (c.move (.matchChar x)).after = c.after := by
        rw [move, matchChar_eq, if_neg hx]
      rw [hrest] at h ⊢
      exact .inr ⟨List.self_eq_append_left.mp h, hx⟩

/-! ## Whole ways -/

theorem Located.tracks (h : c.Located) : c.Tracks c.source := by
  refine ⟨h.standsIn, ?later, ?step, matchChar_eq c, advanceWhile_eq c⟩
  case later =>
    intro ms
    obtain ⟨count, hcount⟩ := exists_moves_eq c ms
    rw [hcount]
    exact ⟨_, h.follows count⟩
  case step =>
    intro m
    obtain ⟨count, hcount⟩ := exists_move_eq c m
    have hfollows := h.follows count
    rw [← hcount] at hfollows
    exact ⟨_, hfollows, passes_move hfollows.after_eq⟩

/-- After any moves from the start of a text, the cursor stands in the text, all later moves follow
it, and the next move passes what it has to pass. -/
theorem tracks_source (text : String) (ms : List Move) :
    ((ofString text).moves ms).Tracks text.toList := by
  have hlocated := (located_ofList text.toList).moves ms
  have hsource : ((ofString text).moves ms).source = text.toList := source_moves _ ms
  rw [← hsource]
  exact hlocated.tracks

end Cursor

end Lexeme
