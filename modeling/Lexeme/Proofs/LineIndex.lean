import Lexeme.Proofs.Coverage

/-!
# Lines and columns against the line index

Line and column of a span are counted while a text is scanned; the line index of a source file is
computed from byte offsets. The two agree: the index has the line of every token and every problem,
it starts at or before the span, and the column counts the characters from there on.

The link is the last line of the text before a span. What stands before that line are whole lines,
and the index has an entry where they end.

## Main definitions

* `SourceFile.Locates`: the line index agrees with line and column of a span.

## Main statements

* `SourceFile.lineStart_of_wholeLines`: the line behind some whole lines starts where they end.
* `SourceFile.locates_over`: the index agrees with every span whose place the text before it gives.
* `Span.Precedes.lex_lt`: of two spans that follow each other, the second comes later in lines and
  columns.
* `SourceFile.locates_spans`: the index agrees with all tokens and problems of a file.
-/

namespace Lexeme

open Text

/-! ## Line starts -/

theorem length_lineStartsAfter (offset : Nat) (cs : List Char) :
    (lineStartsAfter offset cs).length = cs.count '\n' := by
  induction cs generalizing offset with
  | nil => rfl
  | cons c cs ih =>
    unfold lineStartsAfter
    split
    · rename_i hc
      simp [hc, ih]
    · rename_i hc
      simp [hc, ih]

/-- The lines that start in a text are those of its front part and those of the rest. -/
theorem lineStartsAfter_append (offset : Nat) (xs ys : List Char) :
    lineStartsAfter offset (xs ++ ys) =
      lineStartsAfter offset xs ++ lineStartsAfter (offset + byteSize xs) ys := by
  induction xs generalizing offset with
  | nil => rfl
  | cons x xs ih =>
    simp only [List.cons_append, lineStartsAfter, byteSize_cons, ← Nat.add_assoc, ih]
    split <;> rfl

namespace SourceFile

variable {f : SourceFile}

theorem lineCount_eq (f : SourceFile) : f.lineCount = 1 + f.content.toList.count '\n' := by
  rw [lineCount, lineStarts, List.length_cons, length_lineStartsAfter, Nat.add_comm]

/-- The line behind some whole lines starts where they end. -/
theorem lineStart_of_wholeLines {front rest : List Char}
    (hcontent : f.content.toList = front ++ rest)
    (hfront : front = [] ∨ ∃ front', front = front' ++ ['\n']) :
    f.lineStart (front.count '\n') = some (byteSize front) := by
  rcases hfront with rfl | ⟨front', rfl⟩
  · rfl
  · have hcount : (front' ++ ['\n']).count '\n' = (lineStartsAfter 0 front').length + 1 := by
      rw [length_lineStartsAfter, List.count_append, List.count_singleton_self]
    have hstarts : f.lineStarts = 0 :: (lineStartsAfter 0 front' ++
        byteSize (front' ++ ['\n']) :: lineStartsAfter (byteSize (front' ++ ['\n'])) rest) := by
      rw [lineStarts, hcontent, List.append_assoc, lineStartsAfter_append]
      simp [lineStartsAfter]
    rw [hcount, lineStart, hstarts, List.getElem?_cons_succ, List.getElem?_append_right (by simp),
      Nat.sub_self, List.getElem?_cons_zero]

/-- The index has the line of the span, which starts at or before it; on the way from there to the
span no other line starts, and the column counts the characters. -/
structure Locates (f : SourceFile) (s : Span) : Prop where
  line_pos : 1 ≤ s.line
  line_le : s.line ≤ f.lineCount
  column : ∃ start lead, f.lineStart (s.line - 1) = some start ∧ start ≤ s.start ∧
    byteRange start s.start f.content.toList = some lead ∧ '\n' ∉ lead ∧ s.column = 1 + lead.length

/-- The index agrees with the span of what stands behind `before` in the file. -/
theorem locates_over {before rest : List Char} (hcontent : f.content.toList = before ++ rest)
    (taken : List Char) : f.Locates (.over before taken) := by
  obtain ⟨front, hbefore, hfront⟩ := exists_wholeLines before
  have hcount : before.count '\n' = front.count '\n' := by
    rw [hbefore, List.count_append, List.count_eq_zero.mpr (not_mem_lastLine before), Nat.add_zero]
  have hsize : byteSize before = byteSize front + byteSize (lastLine before) := by
    rw [← byteSize_append, ← hbefore]
  have hsplit : f.content.toList = front ++ (lastLine before ++ rest) := by
    rw [hcontent, ← List.append_assoc, ← hbefore]
  refine ⟨Nat.le_add_right 1 _, ?_, byteSize front, lastLine before, ?_, ?_, ?_, ?_, rfl⟩
  · simp only [Span.over, lineCount_eq, hcontent, List.count_append]
    omega
  · simp only [Span.over, Nat.add_sub_cancel_left, hcount]
    exact lineStart_of_wholeLines hsplit hfront
  · simp only [Span.over, hsize]
    omega
  · simp only [Span.over, hsize]
    rw [hsplit, ← List.append_assoc]
    exact byteRange_append front (lastLine before) rest
  · exact not_mem_lastLine before

end SourceFile

/-! ## Order of lines and columns -/

/-- Of two spans that follow each other, the second starts on a later line, or on the same line at
a later column. -/
theorem Span.Precedes.lex_lt {s t : Span} (h : s.Precedes t) :
    Prod.Lex (· < ·) (· < ·) (s.line, s.column) (t.line, t.column) := by
  obtain ⟨before, taken, more, next, htaken, rfl, rfl⟩ := h
  have hlength := List.length_pos_iff.mpr htaken
  rw [List.append_assoc]
  simp only [Prod.lex_def, Span.over, List.count_append]
  by_cases hfeed : '\n' ∈ taken ++ more
  · have hcount := List.count_pos_iff.mpr hfeed
    rw [List.count_append] at hcount
    omega
  · have hcount := List.count_eq_zero.mpr hfeed
    rw [List.count_append] at hcount
    rw [lastLine_append_of_not_mem hfeed, List.length_append, List.length_append]
    omega

/-! ## Whole files -/

theorem SourceFile.locates_of_stream {f : SourceFile} :
    ∀ p ∈ stream f.content, f.Locates p.1.span := by
  intro p hp
  obtain ⟨left, lexeme, right, hcontent, hspan, -, -⟩ :=
    (stream_spec f.content).exists_place p hp
  rw [hspan]
  rw [List.nil_append, List.append_assoc] at hcontent
  exact locates_over hcontent lexeme

/-- The line index of a file agrees with line and column of all its tokens and all its problems, and
these come in the order of their lines and columns. -/
theorem SourceFile.locates_spans (f : SourceFile) :
    (∀ t ∈ tokenize f.content, f.Locates t.span) ∧
      (∀ p ∈ (check f.content).problems, f.Locates p.span) ∧
      (tokenize f.content).Pairwise fun t t' =>
        Prod.Lex (· < ·) (· < ·) (t.span.line, t.span.column) (t'.span.line, t'.span.column) := by
  refine ⟨?tokens, ?problems, ?order⟩
  case tokens =>
    rw [tokenize_eq]
    exact List.forall_mem_map.mpr locates_of_stream
  case problems =>
    rw [problems_check_eq]
    intro problem hproblem
    obtain ⟨p, hp, hsome⟩ := List.mem_filterMap.mp hproblem
    rw [(stream_spec f.content).problem_span p hp problem hsome]
    exact locates_of_stream p hp
  case order =>
    rw [tokenize_eq]
    exact List.pairwise_map.mpr ((stream_spec f.content).precedes.imp Span.Precedes.lex_lt)

end Lexeme
