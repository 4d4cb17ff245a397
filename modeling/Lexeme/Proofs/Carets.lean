import Lexeme.Proofs.LineIndex
import Mathlib.Data.List.DropRight

/-!
# Carets under the text

A snippet shows the line on which a span starts, and carets under the part of the span that lies on
this line. The line is cut out by the line index, its end is trimmed, and the width of the carets
comes from the text of the span, which is trimmed on its own. For all tokens and problems of a file
the three fit together: the carets stand under the text they are meant for.

What matters about a span is that it starts with a character that no trimming removes. Everything
before this character on its line is then left in place, and the trimmed first line of the span is a
front part of the trimmed rest of the line.

## Main definitions

* `Snippet.Marks`: the carets of a snippet stand under the first line of a lexeme.
* `Snippet.numbered`, `Snippet.underline`: the two lines that show a snippet.
* `SourceFile.Underlines`: every snippet of a span can be made, and marks the text of the span.
* `Problem.ShownIn`: an error and a warning about a problem show the same lines and carets.

## Main statements

* `SourceFile.lineAt_of_wholeLines`: the line behind some whole lines.
* `SourceFile.underlines_over`: snippets of stretches that start with a visible character.
* `Stream.exists_visible`: tokens and problems are such stretches.
* `SourceFile.underlines_lexemes`: snippets of all tokens and problems of a file.
-/

namespace Lexeme

open Text

namespace Text

/-! ## Trimming -/

variable {p : Char → Bool} {xs ys : List Char}

theorem trimEnd_eq_rdropWhile (p : Char → Bool) (xs : List Char) : trimEnd p xs = xs.rdropWhile p :=
  rfl

theorem trimEnd_append_of_eq_nil (h : trimEnd p ys = []) (xs : List Char) :
    trimEnd p (xs ++ ys) = trimEnd p xs := by
  have hdrop : ys.reverse.dropWhile p = [] := by simpa [trimEnd] using h
  simp [trimEnd, List.dropWhile_append, hdrop]

/-- What stands before something that is not trimmed away is left in place. -/
theorem trimEnd_append_of_ne_nil (h : trimEnd p ys ≠ []) (xs : List Char) :
    trimEnd p (xs ++ ys) = xs ++ trimEnd p ys := by
  have hdrop : ys.reverse.dropWhile p ≠ [] := by simpa [trimEnd] using h
  simp [trimEnd, List.dropWhile_append, hdrop]

theorem trimEnd_cons_ne_nil {x : Char} (h : p x = false) (xs : List Char) :
    trimEnd p (x :: xs) ≠ [] := by
  intro hnil
  rw [trimEnd_eq_rdropWhile, List.rdropWhile_eq_nil_iff] at hnil
  simpa [h] using hnil x List.mem_cons_self

/-- A longer text, once trimmed, starts with the shorter one, once trimmed. -/
theorem trimEnd_isPrefix (h : xs <+: ys) : trimEnd p xs <+: trimEnd p ys := by
  obtain ⟨zs, rfl⟩ := h
  by_cases hzs : trimEnd p zs = []
  · simp only [trimEnd_append_of_eq_nil hzs, List.prefix_refl]
  · rw [trimEnd_append_of_ne_nil hzs]
    exact (List.rdropWhile_prefix p xs).trans (List.prefix_append xs _)

theorem getLast?_trimEnd_ne {c : Char} (h : p c = true) (xs : List Char) :
    (trimEnd p xs).getLast? ≠ some c := by
  intro hlast
  obtain ⟨front, hfront⟩ := List.getLast?_eq_some_iff.mp hlast
  have hne : xs.rdropWhile p ≠ [] := by
    rw [← trimEnd_eq_rdropWhile, hfront]
    simp
  have hnot := List.rdropWhile_last_not p xs hne
  simp only [← trimEnd_eq_rdropWhile, hfront, List.getLast_append_singleton] at hnot
  exact hnot h

/-! ## First lines -/

theorem firstLine_append_of_not_mem (h : '\n' ∉ xs) (ys : List Char) :
    firstLine (xs ++ ys) = xs ++ firstLine ys := by
  have hxs : ∀ c ∈ xs, (c != '\n') = true := by
    intro c hc
    simpa using ne_of_mem_of_not_mem hc h
  exact List.takeWhile_append_of_pos hxs

theorem firstLine_isPrefix_append (xs ys : List Char) : firstLine xs <+: firstLine (xs ++ ys) := by
  unfold firstLine
  rw [List.takeWhile_append]
  split
  · exact (List.takeWhile_prefix _).trans (List.prefix_append xs _)
  · exact List.prefix_refl _

theorem not_mem_firstLine (cs : List Char) : '\n' ∉ firstLine cs := by
  intro h
  simpa using List.mem_takeWhile_imp h

/-- A text is a single line, or its first line is followed by a line feed. -/
theorem firstLine_cases (cs : List Char) :
    firstLine cs = cs ∨ ∃ rest, cs = firstLine cs ++ '\n' :: rest := by
  have hsplit := List.takeWhile_append_dropWhile (p := (· != '\n')) (l := cs)
  cases hdrop : cs.dropWhile (· != '\n') with
  | nil =>
    rw [hdrop, List.append_nil] at hsplit
    exact .inl hsplit
  | cons c rest =>
    obtain rfl : c = '\n' := eq_of_dropWhile_eq_cons hdrop
    rw [hdrop] at hsplit
    exact .inr ⟨rest, hsplit.symm⟩

/-- Within a line, only carriage returns are trimmed. -/
theorem trimEnd_isLineEnd (h : '\n' ∉ xs) : trimEnd isLineEnd xs = trimEnd (· == '\r') xs := by
  induction xs using List.reverseRecOn with
  | nil => rfl
  | append_singleton xs c ih =>
    have hxs : '\n' ∉ xs := fun hmem => h (List.mem_append_left _ hmem)
    have hc : isLineEnd c = (c == '\r') := by
      have hne : c ≠ '\n' := by
        rintro rfl
        simp at h
      simp [isLineEnd, hne]
    simp only [trimEnd_eq_rdropWhile, List.rdropWhile_concat, hc] at ih ⊢
    rw [ih hxs]

/-- A line that starts with a visible character is not trimmed away. -/
theorem trimEnd_firstLine_cons_ne_nil {x : Char} (h : isLineEnd x = false) (more : List Char) :
    trimEnd (· == '\r') (firstLine (x :: more)) ≠ [] := by
  have hx : x ≠ '\n' ∧ x ≠ '\r' := by simpa [isLineEnd] using h
  rw [firstLine, List.takeWhile_cons_of_pos (by simpa using hx.1)]
  exact trimEnd_cons_ne_nil (by simpa using hx.2) _

end Text

/-! ## Lines of a file -/

namespace SourceFile

variable {f : SourceFile}

/-- The line between two entries of the index. -/
theorem lineAt_of_bounds {front line rest : List Char} {index : Nat}
    (hcontent : f.content.toList = front ++ line ++ rest)
    (hstart : f.lineStart index = some (byteSize front))
    (hstop : (f.lineStart (index + 1)).getD f.size = byteSize front + byteSize line) :
    f.lineAt (index + 1) = some (String.ofList (trimEnd isLineEnd line)) := by
  have hrange := byteRange_append front line rest
  rw [← hcontent] at hrange
  simp [lineAt, hstart, hstop, hrange]

/-- The line behind some whole lines, without its line end. -/
theorem lineAt_of_wholeLines {front rest : List Char} (hcontent : f.content.toList = front ++ rest)
    (hfront : front = [] ∨ ∃ front', front = front' ++ ['\n']) :
    f.lineAt (1 + front.count '\n') =
      some (String.ofList (trimEnd (· == '\r') (firstLine rest))) := by
  have hstart := lineStart_of_wholeLines hcontent hfront
  rw [Nat.add_comm]
  rcases firstLine_cases rest with hrest | ⟨more, hrest⟩
  · -- The last line has no entry behind it in the index, and runs to the end of the text.
    have hfeed : '\n' ∉ rest := hrest ▸ not_mem_firstLine rest
    have hnext : f.lineStart (front.count '\n' + 1) = none := by
      have hcount : f.lineStarts.length = 1 + front.count '\n' := by
        have := f.lineCount_eq
        rwa [hcontent, List.count_append, List.count_eq_zero.mpr hfeed, Nat.add_zero] at this
      exact List.getElem?_eq_none (by omega)
    have hsplit : f.content.toList = front ++ rest ++ [] := by rw [hcontent, List.append_nil]
    rw [lineAt_of_bounds hsplit hstart, hrest, trimEnd_isLineEnd hfeed]
    rw [hnext, Option.getD_none, size, hcontent, byteSize_append]
  · -- The next line starts behind the line feed, which is trimmed together with the rest.
    have hfeed := not_mem_firstLine rest
    generalize firstLine rest = line at hrest hfeed ⊢
    subst hrest
    have hsplit : f.content.toList = front ++ (line ++ ['\n']) ++ more := by simp [hcontent]
    have hnext := lineStart_of_wholeLines hsplit (.inr ⟨front ++ line, by simp⟩)
    rw [List.count_append, List.count_append, List.count_eq_zero.mpr hfeed,
      List.count_singleton_self, Nat.zero_add, byteSize_append] at hnext
    rw [lineAt_of_bounds hsplit hstart, trimEnd_eq_rdropWhile, List.rdropWhile_concat_pos,
      ← trimEnd_eq_rdropWhile, trimEnd_isLineEnd hfeed]
    · rfl
    · rw [hnext, Option.getD_some]

end SourceFile

/-! ## Snippets -/

/-- The carets of the snippet start where the span does, and stand under the first line of `lexeme`.
Columns count from 1, and the last one is left out. -/
structure Snippet.Marks (s : Snippet) (span : Span) (lexeme : List Char) : Prop where
  lineNumber : s.lineNumber = span.line
  startColumn : s.startColumn = span.column
  no_feed : '\n' ∉ s.line.toList
  no_return : s.line.toList.getLast? ≠ some '\r'
  nonempty : s.startColumn < s.endColumn
  within : s.endColumn - 1 ≤ s.line.length
  marked : (s.line.toList.drop (s.startColumn - 1)).take (s.endColumn - s.startColumn) =
    trimEnd (· == '\r') (firstLine lexeme)

namespace SourceFile

variable {f : SourceFile} {before lexeme right : List Char}

/-- The span has snippets with all labels, and their carets mark its text. -/
def Underlines (f : SourceFile) (span : Span) : Prop :=
  ∀ label, ∃ s lexeme, f.snippet span label = .ok s ∧ s.label = label ∧
    byteRange span.start span.stop f.content.toList = some lexeme ∧ s.Marks span lexeme

theorem extractRange_over (hcontent : f.content.toList = before ++ lexeme ++ right) :
    f.extractRange (byteSize before) (byteSize before + byteSize lexeme) =
      .ok (String.ofList lexeme) := by
  have hsize : f.size = byteSize before + byteSize lexeme + byteSize right := by
    rw [size, hcontent, byteSize_append, byteSize_append]
  have hrange := byteRange_append before lexeme right
  rw [← hcontent] at hrange
  rw [extractRange, if_neg (by omega), if_neg (by omega), hrange]

/-- The snippet of a stretch of text, from what stands before it on its line and behind it. -/
theorem snippet_over (hcontent : f.content.toList = before ++ lexeme ++ right)
    (label : Option String) :
    f.snippet (.over before lexeme) label = .ok {
      line := String.ofList
        (trimEnd (· == '\r') (lastLine before ++ firstLine (lexeme ++ right)))
      lineNumber := 1 + before.count '\n'
      startColumn := 1 + (lastLine before).length
      endColumn := 1 + (lastLine before).length + (trimEnd (· == '\r') (firstLine lexeme)).length
      label := label } := by
  obtain ⟨front, hbefore, hfront⟩ := exists_wholeLines before
  have hsplit : f.content.toList = front ++ (lastLine before ++ (lexeme ++ right)) := by
    rw [hcontent, List.append_assoc, ← List.append_assoc front, ← hbefore]
  have hcount : before.count '\n' = front.count '\n' := by
    rw [hbefore, List.count_append, List.count_eq_zero.mpr (not_mem_lastLine before), Nat.add_zero]
  have hline := lineAt_of_wholeLines hsplit hfront
  rw [firstLine_append_of_not_mem (not_mem_lastLine before), ← hcount] at hline
  simp [snippet, Span.over, hline, extractRange_over hcontent, firstLineWidth]

/-- Snippets mark a stretch of text that starts with a visible character. -/
theorem underlines_over {x : Char} {more : List Char} (hx : isLineEnd x = false)
    (hcontent : f.content.toList = before ++ (x :: more) ++ right) :
    f.Underlines (.over before (x :: more)) := by
  intro label
  have hrange := byteRange_append before (x :: more) right
  rw [← hcontent] at hrange
  refine ⟨_, x :: more, snippet_over hcontent label, rfl, hrange, ?_⟩
  -- The line is trimmed behind the start of the span, so its front is in place for the columns.
  have hline := trimEnd_append_of_ne_nil
    (trimEnd_firstLine_cons_ne_nil hx (more ++ right)) (lastLine before)
  have hprefix : trimEnd (· == '\r') (firstLine (x :: more)) <+:
      trimEnd (· == '\r') (firstLine (x :: more ++ right)) :=
    trimEnd_isPrefix (firstLine_isPrefix_append (x :: more) right)
  have hpos := List.length_pos_iff.mpr (trimEnd_firstLine_cons_ne_nil hx more)
  have hle := hprefix.length_le
  rw [← List.cons_append] at hline
  have hfeed : '\n' ∉ trimEnd (· == '\r') (lastLine before ++ firstLine (x :: more ++ right)) := by
    intro hmem
    rcases List.mem_append.mp ((List.rdropWhile_prefix _ _).mem hmem) with hmem | hmem
    · exact not_mem_lastLine before hmem
    · exact not_mem_firstLine _ hmem
  refine ⟨rfl, rfl, ?_, ?_, ?_, ?_, ?_⟩
  · simpa using hfeed
  · simpa using getLast?_trimEnd_ne (by simp) _
  · simp only
    omega
  · simp only [hline, String.length_ofList, List.length_append]
    omega
  · simp only [hline, String.toList_ofList, Nat.add_sub_cancel_left, List.drop_left]
    exact (List.prefix_iff_eq_take.mp hprefix).symm

end SourceFile

/-! ## Tokens and problems -/

theorem isLineEnd_of_not_isBlank {c : Char} (h : isBlank c = false) : isLineEnd c = false := by
  have hfeed : c ≠ '\n' := by
    rintro rfl
    exact absurd h (by decide +kernel)
  have hreturn : c ≠ '\r' := by
    rintro rfl
    exact absurd h (by decide +kernel)
  simp [isLineEnd, hfeed, hreturn]

/-- Except for the end token, the stretch of a token starts with a visible character. The end token
has no problem. -/
theorem Stream.exists_visible {before text : List Char} {pulls : List (Token × Option Problem)}
    (h : Stream before text pulls) : ∀ p ∈ pulls, p.1.kind ≠ .eof ∨ p.2.isSome = true →
      ∃ left x more right, before ++ text = left ++ (x :: more) ++ right ∧
        p.1.span = .over left (x :: more) ∧ isLineEnd x = false := by
  intro p hp hvisible
  obtain rfl | ⟨left, x, rest, piece, hx, hshape, htext, rfl⟩ := h.mem_cases p hp
  · simp [Token.endAt] at hvisible
  · obtain ⟨more, htaken⟩ := hshape.exists_taken
    refine ⟨left, x, more, piece.rest, ?_, ?_, isLineEnd_of_not_isBlank hx⟩
    · rw [← htaken, htext]
    · rw [← htaken]
      rfl

theorem SourceFile.underlines_of_stream {f : SourceFile} {p : Token × Option Problem}
    (hp : p ∈ stream f.content) (hvisible : p.1.kind ≠ .eof ∨ p.2.isSome = true) :
    f.Underlines p.1.span := by
  obtain ⟨left, x, more, right, hcontent, hspan, hx⟩ :=
    (stream_spec f.content).exists_visible p hp hvisible
  rw [hspan]
  exact underlines_over hx hcontent

theorem SourceFile.underlines_of_problem {f : SourceFile} {problem : Problem}
    (h : problem ∈ (check f.content).problems) : f.Underlines problem.span := by
  rw [problems_check_eq] at h
  obtain ⟨p, hp, hproblem⟩ := List.mem_filterMap.mp h
  rw [(stream_spec f.content).problem_span p hp problem hproblem]
  exact underlines_of_stream hp (.inr (by simp [hproblem]))

/-! ## Errors and warnings -/

namespace Snippet

/-- The line of the snippet behind its number, which stands at the right of three columns or more,
and a bar. -/
def numbered (s : Snippet) : String :=
  String.ofList ((toString s.lineNumber).toList.leftpad 3 ' ') ++ " | " ++ s.line

/-- The carets under the columns of the snippet, at least one. Column 1 stands behind the bar, as
far to the right as in the line above. -/
def underline (s : Snippet) : String :=
  String.ofList <|
    List.replicate (max 3 (toString s.lineNumber).length) ' ' ++ [' ', '|', ' '] ++
      List.replicate (s.startColumn - 1) ' ' ++
        List.replicate (max 1 (s.endColumn - s.startColumn)) '^'

theorem sourceLine_eq_numbered (s : Snippet) : s.sourceLine = s.numbered := by
  have hpad : s.gutterWidth - (toString s.lineNumber).length =
      3 - (toString s.lineNumber).length := by
    rw [gutterWidth, decimal_eq_toString]
    omega
  rw [sourceLine, numbered, padLeft_eq_leftpad, decimal_eq_toString, List.leftpad, List.leftpad,
    String.length_toList, hpad]

theorem caretLine_eq_underline (s : Snippet) : s.caretLine = s.underline ++ s.labelText := by
  apply String.toList_injective
  simp [caretLine, underline, gutterWidth, indent, caretCount, repeated, decimal_eq_toString]

/-- A snippet takes two lines of a text. -/
theorem intercalate_format (s : Snippet) (rest : List String) :
    "\n".intercalate (s.format :: rest) =
      "\n".intercalate (s.numbered :: (s.underline ++ s.labelText) :: rest) := by
  have hformat : s.format = s.numbered ++ "\n" ++ (s.underline ++ s.labelText) := by
    rw [format, sourceLine_eq_numbered, caretLine_eq_underline]
  cases rest with
  | nil => simp [hformat]
  | cons line rest => simp [hformat, String.append_assoc]

end Snippet

/-- The label of a snippet does not matter for anything else. -/
theorem SourceFile.snippet_relabel {f : SourceFile} {span : Span} {label : Option String}
    {s : Snippet} (h : f.snippet span label = .ok s) (label' : Option String) :
    f.snippet span label' = .ok { s with label := label' } := by
  unfold snippet at h ⊢
  split at h
  · cases h
  · cases hrange : f.extractRange span.start span.stop with
    | error e => simp [hrange, bind, Except.bind] at h
    | ok range =>
      simp only [hrange, bind, Except.bind, pure, Except.pure, Except.ok.injEq] at h ⊢
      rw [← h]

/-- The line that points to a place in the file. -/
def SourceFile.arrowTo (f : SourceFile) (span : Span) : String :=
  s!" --> {f.name}:{span.line}:{span.column}"

theorem Diagnostic.placeLine_eq_arrowTo (d : Diagnostic) (f : SourceFile) :
    d.placeLine f = f.arrowTo d.span := rfl

/-- The full form of a diagnostic that shows one snippet. -/
theorem Diagnostic.render_of_shownSnippets {d : Diagnostic} {f : SourceFile} {s : Snippet}
    (h : d.shownSnippets f = [s]) :
    d.render f = "\n".intercalate (d.heading :: f.arrowTo d.span :: s.numbered ::
      (s.underline ++ s.labelText) ::
        (d.notes.map ("  = note: " ++ ·) ++ d.helps.map ("  = help: " ++ ·))) := by
  rw [render, blocks, placeLine_eq_arrowTo, h, List.map_singleton, List.append_assoc,
    List.singleton_append, String.intercalate_cons_cons, String.intercalate_cons_cons,
    Snippet.intercalate_format, ← String.intercalate_cons_cons, ← String.intercalate_cons_cons]

namespace Problem

variable {p : Problem} {f : SourceFile} {s : Snippet}

/-- The problem as an error shows its place, its line, carets and a label, and then notes and
advice; the problem as a warning shows the same up to the carets and ends there. -/
def ShownIn (p : Problem) (f : SourceFile) : Prop :=
  ∃ s, f.snippet p.span (some p.flaw.label) = .ok s ∧
    p.render f = "\n".intercalate (p.toDiagnostic.heading :: f.arrowTo p.span :: s.numbered ::
      (s.underline ++ " " ++ p.flaw.label) ::
        (p.flaw.notes.map ("  = note: " ++ ·) ++ p.flaw.helps.map ("  = help: " ++ ·))) ∧
    p.toWarning.render f =
      "\n".intercalate [p.toWarning.heading, f.arrowTo p.span, s.numbered, s.underline]

theorem diagnosticIn_of_snippet (h : f.snippet p.span (some p.flaw.label) = .ok s) :
    p.diagnosticIn f = p.toDiagnostic.addSnippet s := by
  simp [diagnosticIn, h]

theorem shownSnippets_toWarning (h : f.snippet p.span (some p.flaw.label) = .ok s) :
    p.toWarning.shownSnippets f = [{ s with label := none }] := by
  have hplain : f.snippet p.toWarning.span none = .ok { s with label := none } :=
    SourceFile.snippet_relabel h none
  rw [Diagnostic.shownSnippets, hplain]
  rfl

theorem shownIn_of_snippet (h : f.snippet p.span (some p.flaw.label) = .ok s)
    (hlabel : s.label = some p.flaw.label) : p.ShownIn f := by
  refine ⟨s, h, ?_, ?_⟩
  · have hlabelText : s.underline ++ s.labelText = s.underline ++ " " ++ p.flaw.label := by
      simp [Snippet.labelText, hlabel, String.append_assoc]
    have hshown : (p.toDiagnostic.addSnippet s).shownSnippets f = [s] := rfl
    rw [render, diagnosticIn_of_snippet h, Diagnostic.render_of_shownSnippets hshown, hlabelText]
    rfl
  · rw [Diagnostic.render_of_shownSnippets (shownSnippets_toWarning h)]
    simp only [Snippet.labelText, String.append_empty]
    rfl

end Problem

/-! ## Whole files -/

/-- Snippets of all tokens of a file and of all its problems mark the text that they are about. An
error about a problem always shows such a snippet, and the warning that is given about it otherwise
shows the same one without its label. -/
theorem SourceFile.underlines_lexemes (f : SourceFile) :
    (∀ t ∈ tokenize f.content, t.kind ≠ .eof → f.Underlines t.span) ∧
      (∀ p ∈ (check f.content).problems, f.Underlines p.span ∧ p.ShownIn f) ∧
      (tokenizeWith .empty f.content).2.diagnostics =
        (check f.content).problems.map Problem.toWarning := by
  refine ⟨?tokens, ?problems, ?warnings⟩
  case tokens =>
    rw [tokenize_eq]
    intro t ht hkind
    obtain ⟨p, hp, rfl⟩ := List.mem_map.mp ht
    exact underlines_of_stream hp (.inl hkind)
  case problems =>
    intro p hp
    have hunderlines := underlines_of_problem hp
    obtain ⟨s, -, hsnippet, hlabel, -⟩ := hunderlines (some p.flaw.label)
    exact ⟨hunderlines, p.shownIn_of_snippet hsnippet hlabel⟩
  case warnings => simp [tokenizeWith_eq, problems_check_eq, Handler.empty]

end Lexeme
