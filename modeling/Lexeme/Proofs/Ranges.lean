import Lexeme.Proofs.Lines

/-!
# Spans from anywhere

A span need not come from a lexer, and its numbers need not fit each other or the file. Every range
of offsets is either cut out or refused for one of three reasons, which are looked for in a fixed
order: it is reversed, it is out of bounds, it cuts a character. A snippet is refused for a line
that does not exist and, after that, for its range. Nothing else can go wrong with it, and a
diagnostic without snippets of its own shows a source line exactly if there is one to show.

## Main definitions

* `SourceFile.JudgesRange`, `SourceFile.JudgesSpan`: what becomes of a range and of a snippet.
* `Diagnostic.Shows`, `Diagnostic.ShowsNone`: the full form of a diagnostic shows one snippet, and
  none.

## Main statements

* `SourceFile.extractRange_cases`: the four things that can become of a range.
* `SourceFile.extractRange_trans`: two ranges, one behind the other, are one range.
* `SourceFile.snippet_eq`: what becomes of a snippet, from its line and its range.
* `SourceFile.judges_spans`: ranges, snippets and diagnostics for every span.
-/

namespace Lexeme

open Text

/-! ## Ranges -/

/-- A stretch of text can be cut out exactly between two boundaries. -/
theorem exists_byteRange_iff {text : List Char} {start stop : Nat} (h : start ≤ stop) :
    (∃ range, byteRange start stop text = some range) ↔
      IsBoundary text start ∧ IsBoundary text stop := by
  refine ⟨?_, fun hboundary => hboundary.1.exists_byteRange hboundary.2 h⟩
  rintro ⟨range, hrange⟩
  obtain ⟨front, rest, rfl, rfl, rfl⟩ := (byteRange_eq_some_iff h).mp hrange
  exact ⟨⟨front, range ++ rest, by simp, rfl⟩, ⟨front ++ range, rest, rfl, byteSize_append ..⟩⟩

namespace SourceFile

variable {f : SourceFile} {start stop : Nat} {range : String}

/-- The range is cut out or refused, and the first reason counts. -/
structure JudgesRange (f : SourceFile) (start stop : Nat) : Prop where
  ok_iff : (∃ range, f.extractRange start stop = .ok range) ↔ start ≤ stop ∧ stop ≤ f.size ∧
    IsBoundary f.content.toList start ∧ IsBoundary f.content.toList stop
  /-- What is cut out is the text that stands there. -/
  eq_of_ok : ∀ range, f.extractRange start stop = .ok range → ∃ front rest,
    f.content.toList = front ++ range.toList ++ rest ∧ byteSize front = start ∧
      byteSize front + byteSize range.toList = stop
  invalidSpan_iff : f.extractRange start stop = .error (.invalidSpan start stop) ↔ stop < start
  outOfBounds_iff : f.extractRange start stop = .error (.outOfBounds f.size start stop) ↔
    start ≤ stop ∧ f.size < stop
  notCharBoundary_iff : f.extractRange start stop = .error (.notCharBoundary start stop) ↔
    start ≤ stop ∧ stop ≤ f.size ∧
      ¬(IsBoundary f.content.toList start ∧ IsBoundary f.content.toList stop)

/-- What can become of a range. -/
theorem extractRange_cases (f : SourceFile) (start stop : Nat) :
    (stop < start ∧ f.extractRange start stop = .error (.invalidSpan start stop)) ∨
    (start ≤ stop ∧ f.size < stop ∧
      f.extractRange start stop = .error (.outOfBounds f.size start stop)) ∨
    (start ≤ stop ∧ stop ≤ f.size ∧
      ¬(IsBoundary f.content.toList start ∧ IsBoundary f.content.toList stop) ∧
      f.extractRange start stop = .error (.notCharBoundary start stop)) ∨
    (start ≤ stop ∧ stop ≤ f.size ∧
      (IsBoundary f.content.toList start ∧ IsBoundary f.content.toList stop) ∧
      ∃ range, byteRange start stop f.content.toList = some range ∧
        f.extractRange start stop = .ok (String.ofList range)) := by
  unfold extractRange
  split
  · exact .inl ⟨by omega, rfl⟩
  split
  · exact .inr (.inl ⟨by omega, by omega, rfl⟩)
  have hle : start ≤ stop := by omega
  have hsize : stop ≤ f.size := by omega
  refine .inr (.inr ?_)
  rw [← exists_byteRange_iff hle]
  cases hrange : byteRange start stop f.content.toList with
  | none => exact .inl ⟨hle, hsize, by simp, rfl⟩
  | some range => exact .inr ⟨hle, hsize, ⟨range, rfl⟩, range, rfl, rfl⟩

theorem extractRange_eq_ok_iff : f.extractRange start stop = .ok range ↔
    start ≤ stop ∧ byteRange start stop f.content.toList = some range.toList := by
  rcases f.extractRange_cases start stop with
    ⟨hlt, heq⟩ | ⟨hle, hsize, heq⟩ | ⟨hle, -, hboundary, heq⟩ | ⟨hle, -, -, cs, hrange, heq⟩
  · simp only [heq, reduceCtorEq, false_iff]
    omega
  · simp only [heq, reduceCtorEq, false_iff]
    rintro ⟨-, hrange⟩
    obtain ⟨-, hstop⟩ := (exists_byteRange_iff hle).mp ⟨_, hrange⟩
    have := hstop.le_byteSize
    rw [size] at hsize
    omega
  · simp only [heq, reduceCtorEq, false_iff]
    rintro ⟨-, hrange⟩
    exact hboundary ((exists_byteRange_iff hle).mp ⟨_, hrange⟩)
  · rw [heq, hrange]
    simp only [Except.ok.injEq, Option.some.injEq, hle, true_and]
    constructor
    · rintro rfl
      exact String.toList_ofList.symm
    · rintro rfl
      exact String.ofList_toList

theorem judgesRange (f : SourceFile) (start stop : Nat) : f.JudgesRange start stop := by
  have hcases := f.extractRange_cases start stop
  refine ⟨?ok, ?text, ?reversed, ?bounds, ?boundary⟩
  case text =>
    intro range hrange
    obtain ⟨hle, hcut⟩ := extractRange_eq_ok_iff.mp hrange
    exact (byteRange_eq_some_iff hle).mp hcut
  -- Each of the four statements is read off each of the four cases.
  all_goals
    rcases hcases with ⟨hlt, heq⟩ | ⟨hle, hsize, heq⟩ | ⟨hle, hsize, hboundary, heq⟩ |
      ⟨hle, hsize, hboundary, cs, -, heq⟩ <;> grind

/-- Two ranges, one behind the other, are one range. -/
theorem extractRange_trans {a b c : Nat} {left right : String}
    (hleft : f.extractRange a b = .ok left) (hright : f.extractRange b c = .ok right) :
    f.extractRange a c = .ok (left ++ right) := by
  obtain ⟨hab, hleft⟩ := extractRange_eq_ok_iff.mp hleft
  obtain ⟨hbc, hright⟩ := extractRange_eq_ok_iff.mp hright
  refine extractRange_eq_ok_iff.mpr ⟨hab.trans hbc, ?_⟩
  rw [String.toList_append]
  exact byteRange_trans hab hbc hleft hright

/-! ## Snippets -/

/-- The snippet of the span is made or refused: first for its line and then for its range. Its
carets take as many columns as the first line of the range has characters, without the carriage
returns at its end. -/
structure JudgesSpan (f : SourceFile) (span : Span) (label : Option String) : Prop where
  invalidLine_iff : f.snippet span label = .error (.invalidLine span.line f.lineCount) ↔
    span.line = 0 ∨ f.lineCount < span.line
  error_of_range : 1 ≤ span.line → span.line ≤ f.lineCount → ∀ e,
    f.extractRange span.start span.stop = .error e → f.snippet span label = .error e
  ok_of_range : 1 ≤ span.line → span.line ≤ f.lineCount → ∀ range,
    f.extractRange span.start span.stop = .ok range → ∃ line, f.lineAt span.line = some line ∧
      f.snippet span label = .ok {
        line := line
        lineNumber := span.line
        startColumn := span.column
        endColumn := span.column + (trimEnd (· == '\r') (firstLine range.toList)).length
        label := label }
  /-- With a column of 32 bits, and a text of less than 2^63 bytes, no column needs more than 64
  bits. -/
  no_overflow : span.column < UInt32.size → f.size < UInt64.size / 2 → ∀ s,
    f.snippet span label = .ok s → s.endColumn < UInt64.size

theorem snippet_of_lineAt_eq_none {span : Span} (h : f.lineAt span.line = none)
    (label : Option String) :
    f.snippet span label = .error (.invalidLine span.line f.lineCount) := by
  rw [snippet, h]

/-- The snippet of a span on a line of the file, from its range. -/
theorem snippet_eq {span : Span} {line : String} (h : f.lineAt span.line = some line)
    (label : Option String) : f.snippet span label =
      (f.extractRange span.start span.stop).map fun range => {
        line := line
        lineNumber := span.line
        startColumn := span.column
        endColumn := span.column + (trimEnd (· == '\r') (firstLine range.toList)).length
        label := label } := by
  rw [snippet, h]
  cases f.extractRange span.start span.stop <;> rfl

theorem extractRange_ne_invalidLine {line count : Nat} :
    f.extractRange start stop ≠ .error (.invalidLine line count) := by
  rcases f.extractRange_cases start stop with ⟨-, heq⟩ | ⟨-, -, heq⟩ | ⟨-, -, -, heq⟩ |
    ⟨-, -, -, cs, -, heq⟩ <;>
  simp [heq]

/-- Carets take no more columns than the text has bytes. -/
theorem width_le_size (h : f.extractRange start stop = .ok range) :
    (trimEnd (· == '\r') (firstLine range.toList)).length ≤ f.size := by
  have htrim : (trimEnd (· == '\r') (firstLine range.toList)).length ≤
      (firstLine range.toList).length := (List.rdropWhile_prefix _ _).length_le
  have hfirst : (firstLine range.toList).length ≤ range.toList.length :=
    (List.takeWhile_prefix _).length_le
  have hlength := length_le_byteSize range.toList
  obtain ⟨front, rest, hcontent, -, -⟩ := (f.judgesRange start stop).eq_of_ok range h
  have hsize : f.size = byteSize front + byteSize range.toList + byteSize rest := by
    rw [size, hcontent, byteSize_append, byteSize_append]
  omega

theorem label_of_snippet {span : Span} {label : Option String} {s : Snippet}
    (h : f.snippet span label = .ok s) : s.label = label := by
  have hrelabel := snippet_relabel h label
  rw [h, Except.ok.injEq] at hrelabel
  rw [hrelabel]

theorem exists_range_of_snippet {span : Span} {label : Option String} {s : Snippet}
    (h : f.snippet span label = .ok s) :
    ∃ range, f.extractRange span.start span.stop = .ok range ∧
      s.endColumn = span.column + (trimEnd (· == '\r') (firstLine range.toList)).length := by
  cases hline : f.lineAt span.line with
  | none => simp [snippet_of_lineAt_eq_none hline] at h
  | some line =>
    rw [snippet_eq hline] at h
    cases hrange : f.extractRange span.start span.stop with
    | error e => simp [hrange, Except.map] at h
    | ok range =>
      rw [hrange, Except.map, Except.ok.injEq] at h
      exact ⟨range, rfl, by rw [← h]⟩

/-- Ranges do not complain about lines, so a snippet that does was refused for its own. -/
theorem snippet_eq_invalidLine_iff {span : Span} {label : Option String} :
    f.snippet span label = .error (.invalidLine span.line f.lineCount) ↔
      f.lineAt span.line = none := by
  refine ⟨fun h => ?_, fun h => snippet_of_lineAt_eq_none h label⟩
  by_contra hsome
  obtain ⟨line, hline⟩ := Option.ne_none_iff_exists'.mp hsome
  rw [snippet_eq hline] at h
  cases hrange : f.extractRange span.start span.stop with
  | ok range => simp [hrange, Except.map] at h
  | error e =>
    rw [hrange, Except.map, Except.error.injEq] at h
    exact extractRange_ne_invalidLine (h ▸ hrange)

theorem judgesSpan (f : SourceFile) (span : Span) (label : Option String) :
    f.JudgesSpan span label := by
  refine ⟨?invalidLine, ?error, ?ok, ?overflow⟩
  case invalidLine => exact snippet_eq_invalidLine_iff.trans lineAt_eq_none_iff
  case error =>
    intro hpos hle e hrange
    obtain ⟨line, hline⟩ := exists_lineAt hpos hle
    rw [snippet_eq hline, hrange]
    rfl
  case ok =>
    intro hpos hle range hrange
    obtain ⟨line, hline⟩ := exists_lineAt hpos hle
    refine ⟨line, hline, ?_⟩
    rw [snippet_eq hline, hrange]
    rfl
  case overflow =>
    intro hcolumn hsize s hs
    obtain ⟨range, hrange, hend⟩ := exists_range_of_snippet hs
    have hwidth := width_le_size hrange
    simp only [UInt32.size, UInt64.size] at hcolumn hsize ⊢
    omega

end SourceFile

/-! ## Diagnostics -/

namespace Diagnostic

variable {d : Diagnostic} {f : SourceFile}

/-- Notes and advice, as they stand at the end of the full form. -/
def remarks (d : Diagnostic) : List String :=
  d.notes.map ("  = note: " ++ ·) ++ d.helps.map ("  = help: " ++ ·)

/-- The full form shows the numbered source line of `s` and the carets under it, between the place
and the remarks. -/
def Shows (d : Diagnostic) (f : SourceFile) (s : Snippet) : Prop :=
  d.render f = "\n".intercalate
    (d.heading :: f.arrowTo d.span :: s.numbered :: s.underline :: d.remarks)

/-- The full form shows no source line: the remarks stand right behind the place. -/
def ShowsNone (d : Diagnostic) (f : SourceFile) : Prop :=
  d.render f = "\n".intercalate (d.heading :: f.arrowTo d.span :: d.remarks)

theorem length_intercalate_cons_cons (first next : String) (rest : List String) :
    ("\n".intercalate (first :: next :: rest)).length =
      first.length + 1 + ("\n".intercalate (next :: rest)).length := by
  rw [String.intercalate_cons_cons, String.length_append, String.length_append]
  rfl

/-- A line more makes a text longer. -/
theorem length_intercalate_lt (first line : String) (rest : List String) :
    ("\n".intercalate (first :: rest)).length <
      ("\n".intercalate (first :: line :: rest)).length := by
  rw [length_intercalate_cons_cons]
  cases rest with
  | nil =>
    rw [String.intercalate_singleton]
    omega
  | cons next rest =>
    rw [length_intercalate_cons_cons, length_intercalate_cons_cons]
    omega

theorem shows_of_snippet {s : Snippet} (hd : d.snippets = []) (h : f.snippet d.span none = .ok s) :
    d.Shows f s := by
  have hshown : d.shownSnippets f = [s] := by simp [shownSnippets, hd, h]
  have hlabel : s.labelText = "" := by rw [Snippet.labelText, SourceFile.label_of_snippet h]
  rw [Shows, render_of_shownSnippets hshown, hlabel, String.append_empty]
  rfl

theorem showsNone_of_snippet {e : SourceError} (hd : d.snippets = [])
    (h : f.snippet d.span none = .error e) : d.ShowsNone f := by
  have hshown : d.shownSnippets f = [] := by simp [shownSnippets, hd, h]
  rw [ShowsNone, render, blocks, hshown]
  rfl

/-- A full form that shows no source line is too short to show one. -/
theorem ShowsNone.not_shows (h : d.ShowsNone f) (s : Snippet) : ¬ d.Shows f s := by
  intro hshows
  have hlength := congrArg String.length (h.symm.trans hshows)
  have hsource := length_intercalate_lt (f.arrowTo d.span) s.numbered (s.underline :: d.remarks)
  have hcarets := length_intercalate_lt (f.arrowTo d.span) s.underline d.remarks
  rw [length_intercalate_cons_cons, length_intercalate_cons_cons] at hlength
  omega

/-- A source line is shown exactly if there is a snippet of the span. -/
theorem exists_shows_iff (hd : d.snippets = []) :
    (∃ s, d.Shows f s) ↔ ∃ s, f.snippet d.span none = .ok s := by
  refine ⟨?_, fun ⟨s, hs⟩ => ⟨s, shows_of_snippet hd hs⟩⟩
  rintro ⟨s, hshows⟩
  cases hsnippet : f.snippet d.span none with
  | ok s => exact ⟨s, rfl⟩
  | error e => exact absurd hshows ((showsNone_of_snippet hd hsnippet).not_shows s)

end Diagnostic

/-! ## Whole files -/

/-- Whatever the numbers of a span are, its range and its snippet are judged in order, ranges one
behind the other are one range, and a diagnostic about the span without snippets of its own shows a
source line exactly if there is a snippet of the span. -/
theorem SourceFile.judges_spans (f : SourceFile) :
    (∀ start stop, f.JudgesRange start stop) ∧
      (∀ a b c left right, f.extractRange a b = .ok left → f.extractRange b c = .ok right →
        f.extractRange a c = .ok (left ++ right)) ∧
      (∀ span label, f.JudgesSpan span label) ∧
      ∀ d : Diagnostic, d.snippets = [] →
        ((∃ s, d.Shows f s) ↔ ∃ s, f.snippet d.span none = .ok s) ∧
          (∀ s, f.snippet d.span none = .ok s → d.Shows f s) ∧
          ∀ e, f.snippet d.span none = .error e → d.ShowsNone f := by
  refine ⟨f.judgesRange, fun a b c left right => extractRange_trans, f.judgesSpan, ?_⟩
  intro d hd
  exact ⟨Diagnostic.exists_shows_iff hd, fun s => Diagnostic.shows_of_snippet hd,
    fun e => Diagnostic.showsNone_of_snippet hd⟩

end Lexeme
