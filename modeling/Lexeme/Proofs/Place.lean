import Lexeme.Scan.Lexer
import Lexeme.Scan.Moves

/-!
# Places in a text

A place is given by the text before it: its offset, its line and its column are what that text says
they are. Every cursor that a lexer reaches stands at such a place, so the span of a token is known
from the text before it and the text it takes.

## Main definitions

* `Text.lastLine`: the line that a text ends with.
* `Span.over`: the span of a stretch of text, given what stands before it.
* `Cursor.Located`: offset, line and column of a cursor are those of the text behind it.

## Main statements

* `Text.byteRange_append`, `Text.byteRange_eq_some_iff`: cutting by bytes finds the stretch that
  stands there, and nothing else.
* `Text.lastLine_append_of_mem`, `Text.lastLine_append_of_not_mem`: the last line of a longer text.
* `Cursor.Located.advanceN`, `Cursor.Located.moves`: moving keeps a cursor located.
* `Cursor.Located.spanTo`: the span between two places of a cursor.
-/

namespace Lexeme

open Text

namespace Text

/-! ## Cutting by bytes -/

@[simp]
theorem byteSize_reverse (cs : List Char) : byteSize cs.reverse = byteSize cs := by
  induction cs with
  | nil => rfl
  | cons c cs ih => simp [ih, Nat.add_comm]

theorem length_le_byteSize (cs : List Char) : cs.length ≤ byteSize cs := by
  induction cs with
  | nil => exact Nat.le_refl 0
  | cons c cs ih =>
    have := Char.utf8Size_pos c
    rw [List.length_cons, byteSize_cons]
    omega

theorem byteSize_pos {cs : List Char} (h : cs ≠ []) : 0 < byteSize cs :=
  Nat.lt_of_lt_of_le (List.length_pos_iff.mpr h) (length_le_byteSize cs)

/-- The cut behind a front part falls between characters. -/
theorem splitAtByte_append (xs ys : List Char) :
    splitAtByte (byteSize xs) (xs ++ ys) = some (xs, ys) := by
  induction xs with
  | nil => simp [splitAtByte]
  | cons x xs ih =>
    obtain ⟨n, hn⟩ : ∃ n, x.utf8Size + byteSize xs = n + 1 :=
      Nat.exists_eq_add_one.mpr (Nat.add_pos_left (Char.utf8Size_pos x) _)
    have hle : x.utf8Size ≤ n + 1 := by omega
    have hsub : n + 1 - x.utf8Size = byteSize xs := by omega
    simp only [byteSize_cons, hn, List.cons_append, splitAtByte, hle, if_true, hsub, ih,
      Option.map_some]

/-- A cut gives the text before it and the text after it, and stands where the first one ends. -/
theorem splitAtByte_eq_some_iff {offset : Nat} {cs front rest : List Char} :
    splitAtByte offset cs = some (front, rest) ↔ cs = front ++ rest ∧ byteSize front = offset := by
  refine ⟨fun h => ?_, ?_⟩
  · induction offset, cs using splitAtByte.induct generalizing front with
    | case1 cs =>
      obtain ⟨rfl, rfl⟩ : [] = front ∧ cs = rest := by simpa [splitAtByte] using h
      exact ⟨rfl, rfl⟩
    | case2 offset => simp [splitAtByte] at h
    | case3 offset c cs hle ih =>
      simp only [splitAtByte, if_pos hle, Option.map_eq_some_iff, Prod.mk.injEq] at h
      obtain ⟨⟨before, after⟩, hcut, rfl, rfl⟩ := h
      obtain ⟨rfl, hsize⟩ := ih hcut
      refine ⟨rfl, ?_⟩
      rw [byteSize_cons, hsize]
      omega
    | case4 offset c cs hlt => simp [splitAtByte, hlt] at h
  · rintro ⟨rfl, rfl⟩
    exact splitAtByte_append front rest

/-- The stretch between two offsets is the text that stands there. -/
theorem byteRange_append (xs ys zs : List Char) :
    byteRange (byteSize xs) (byteSize xs + byteSize ys) (xs ++ ys ++ zs) = some ys := by
  have hsub : byteSize xs + byteSize ys - byteSize xs = byteSize ys := by omega
  simp [byteRange, List.append_assoc, splitAtByte_append, hsub]

theorem byteRange_eq_some_iff {start stop : Nat} {cs range : List Char} (h : start ≤ stop) :
    byteRange start stop cs = some range ↔ ∃ front rest,
      cs = front ++ range ++ rest ∧ byteSize front = start ∧
        byteSize front + byteSize range = stop := by
  refine ⟨fun hrange => ?_, ?_⟩
  · simp only [byteRange, Option.bind_eq_bind, Option.bind_eq_some_iff, Option.pure_def,
      Option.some.injEq, Prod.exists] at hrange
    obtain ⟨front, after, hfront, range', rest, hafter, rfl⟩ := hrange
    obtain ⟨rfl, hstart⟩ := splitAtByte_eq_some_iff.mp hfront
    obtain ⟨rfl, hstop⟩ := splitAtByte_eq_some_iff.mp hafter
    exact ⟨front, rest, (List.append_assoc ..).symm, hstart, by omega⟩
  · rintro ⟨front, rest, rfl, rfl, rfl⟩
    exact byteRange_append front range rest

/-- Two stretches, one behind the other, are one stretch. -/
theorem byteRange_trans {a b c : Nat} {cs left right : List Char} (hab : a ≤ b) (hbc : b ≤ c)
    (hleft : byteRange a b cs = some left) (hright : byteRange b c cs = some right) :
    byteRange a c cs = some (left ++ right) := by
  obtain ⟨front, rest, rfl, rfl, rfl⟩ := (byteRange_eq_some_iff hab).mp hleft
  obtain ⟨front', rest', hsplit, hfront, rfl⟩ := (byteRange_eq_some_iff hbc).mp hright
  -- What stands before the second stretch is the first one and what stands before that.
  have hcut := splitAtByte_append front' (right ++ rest')
  rw [← List.append_assoc, ← hsplit, hfront, ← byteSize_append, splitAtByte_append,
    Option.some.injEq, Prod.mk.injEq] at hcut
  obtain ⟨rfl, hrest⟩ := hcut
  rw [byteRange_eq_some_iff (by omega)]
  exact ⟨front, rest', by simp [hrest], rfl, by simp [Nat.add_assoc]⟩

/-- The characters after the last line feed, or all of them if there is none. -/
def lastLine (cs : List Char) : List Char := (cs.reverse.takeWhile (· != '\n')).reverse

theorem not_mem_lastLine (cs : List Char) : '\n' ∉ lastLine cs := by
  intro h
  have hclass := List.all_eq_true.mp (List.all_takeWhile (p := (· != '\n')) (l := cs.reverse))
  simpa using hclass '\n' (List.mem_reverse.mp h)

/-- Without a line feed, the last line goes on. -/
theorem lastLine_append_of_not_mem {ys : List Char} (h : '\n' ∉ ys) (xs : List Char) :
    lastLine (xs ++ ys) = lastLine xs ++ ys := by
  have hys : ∀ c ∈ ys.reverse, (c != '\n') = true := by
    intro c hc
    simpa using ne_of_mem_of_not_mem (List.mem_reverse.mp hc) h
  simp [lastLine, List.takeWhile_append_of_pos hys]

/-- A text is its last line behind the whole lines before it. -/
theorem exists_wholeLines (cs : List Char) :
    ∃ front, cs = front ++ lastLine cs ∧ (front = [] ∨ ∃ front', front = front' ++ ['\n']) := by
  refine ⟨(cs.reverse.dropWhile (· != '\n')).reverse, ?_, ?_⟩
  · rw [lastLine, ← List.reverse_append, List.takeWhile_append_dropWhile, List.reverse_reverse]
  · cases hdrop : cs.reverse.dropWhile (· != '\n') with
    | nil => exact .inl rfl
    | cons c rest =>
      obtain rfl : c = '\n' := eq_of_dropWhile_eq_cons hdrop
      exact .inr ⟨rest.reverse, by simp⟩

/-- A line feed starts a line of its own. -/
theorem lastLine_append_of_mem {ys : List Char} (h : '\n' ∈ ys) (xs : List Char) :
    lastLine (xs ++ ys) = lastLine ys := by
  have hend : ∀ front : List Char, lastLine (front ++ ['\n']) = [] := by simp [lastLine]
  obtain ⟨front, hys, rfl | ⟨front', rfl⟩⟩ := exists_wholeLines ys
  · rw [hys] at h
    exact absurd h (not_mem_lastLine ys)
  · have hline : lastLine (xs ++ (front' ++ ['\n']) ++ lastLine ys) = lastLine ys := by
      rw [lastLine_append_of_not_mem (not_mem_lastLine ys), ← List.append_assoc, hend,
        List.nil_append]
    rwa [List.append_assoc, ← hys] at hline

end Text

/-- The span of `taken` in a text where `before` stands before it. -/
def Span.over (before taken : List Char) : Span :=
  ⟨byteSize before, byteSize before + byteSize taken, 1 + before.count '\n',
    1 + (lastLine before).length⟩

namespace Cursor

/-! ## Located cursors -/

/-- Offset, line and column are those of the text behind the cursor. -/
structure Located (c : Cursor) : Prop where
  position : c.position = byteSize c.before
  line : c.line = 1 + c.before.count '\n'
  column : c.column = 1 + (c.before.takeWhile (· != '\n')).length

theorem located_ofList (text : List Char) : (ofList text).Located := ⟨rfl, rfl, rfl⟩

theorem Located.advance {c : Cursor} (h : c.Located) : c.advance.Located := by
  unfold Cursor.advance
  split
  · exact h
  · rename_i x rest _
    by_cases hx : x = '\n'
    · refine ⟨?_, ?_, ?_⟩
      · simp [h.position, Nat.add_comm]
      · simp [hx, h.line, Nat.add_assoc]
      · simp [hx]
    · refine ⟨?_, ?_, ?_⟩
      · simp [h.position, Nat.add_comm]
      · simp [hx, h.line]
      · simp [hx, h.column, Nat.add_assoc]

theorem Located.advanceN {c : Cursor} (h : c.Located) (count : Nat) :
    (advanceN count c).Located := by
  induction count generalizing c with
  | zero => exact h
  | succ count ih =>
    unfold Cursor.advanceN
    split
    · exact h
    · exact ih h.advance

theorem Located.moves {c : Cursor} (h : c.Located) (ms : List Move) : (c.moves ms).Located := by
  obtain ⟨count, hcount⟩ := exists_moves_eq c ms
  rw [hcount]
  exact h.advanceN count

theorem Located.skipBlanks {c : Cursor} (h : c.Located) : c.skipBlanks.Located := h.advanceN _

theorem before_advance (c : Cursor) : c.advance.before = (c.after.take 1).reverse ++ c.before := by
  unfold advance
  split <;> grind

/-- What lies behind after `count` moves. -/
theorem before_advanceN (count : Nat) (c : Cursor) :
    (advanceN count c).before = (c.after.take count).reverse ++ c.before := by
  induction count generalizing c with
  | zero => simp [advanceN]
  | succ count ih =>
    unfold advanceN
    split
    · grind [isAtEnd]
    · cases hafter : c.after with
      | nil => grind [isAtEnd]
      | cons x rest => simp [ih, before_advance, after_advance, hafter]

/-- Moving past a front part of what lies ahead puts it behind. -/
theorem before_advanceN_length {c : Cursor} {xs ys : List Char} (h : c.after = xs ++ ys) :
    (advanceN xs.length c).before = xs.reverse ++ c.before := by
  rw [before_advanceN, h, List.take_left]

theorem after_advanceN_length {c : Cursor} {xs ys : List Char} (h : c.after = xs ++ ys) :
    (advanceN xs.length c).after = ys := by
  rw [after_advanceN, h, List.drop_left]

theorem before_skipBlanks (c : Cursor) :
    c.skipBlanks.before = (c.after.takeWhile isBlank).reverse ++ c.before :=
  before_advanceN_length List.takeWhile_append_dropWhile.symm

theorem after_skipBlanks_eq_dropWhile (c : Cursor) :
    c.skipBlanks.after = c.after.dropWhile isBlank :=
  after_advanceN_length List.takeWhile_append_dropWhile.symm

/-- The span from a cursor over a front part of what lies ahead. -/
theorem Located.spanTo {c : Cursor} (h : c.Located) {xs ys : List Char}
    (hafter : c.after = xs ++ ys) :
    c.spanTo (Cursor.advanceN xs.length c) = Span.over c.before.reverse xs := by
  have hstop := (h.advanceN xs.length).position
  rw [before_advanceN_length hafter, byteSize_append, byteSize_reverse, Nat.add_comm] at hstop
  simp [Cursor.spanTo, Span.over, lastLine, h.position, h.line, h.column, hstop]

end Cursor

end Lexeme
