import Lexeme.Proofs.Carets
import Lexeme.Text.Split

/-!
# Carets under their columns

A snippet is written in two lines, each put together on its own: one from the number and the source
line, the other from blanks, a bar, carets and the label. Both start with a margin of one width,
however long the number is, and behind it the index grows with the column. So each caret stands
under its column. A range that is reversed or empty still has one caret, at its first column.

## Main definitions

* `Snippet.margin`, `Snippet.stopColumn`: where the source line and where the label start.
* `Snippet.Aligned`: two lines of text show a snippet, with each caret under its column.

## Main statements

* `Snippet.aligned`: the two lines are aligned.
* `Snippet.format_aligned`: a snippet is written as two aligned lines.
-/

namespace Lexeme

open Text

namespace Snippet

variable {s : Snippet}

/-- The number of characters before the source line: its number, padded to three columns, and a bar
between two spaces. -/
def margin (s : Snippet) : Nat := 3 + max 3 (decimal s.lineNumber).length

/-- The column behind the last caret. At least one column is marked, also in a reversed range. -/
def stopColumn (s : Snippet) : Nat := max s.endColumn (s.startColumn + 1)

/-- Two lines show the snippet. In `source`, the source line stands behind the margin. In `carets`,
there is a caret for each column of the range, nothing but a bar before the first one, and the label
behind the last one. Columns count from 1, so column `c` of the source line has the index
`margin + c - 1`. -/
structure Aligned (s : Snippet) (source carets : List Char) : Prop where
  margin_le : s.margin ≤ source.length
  source_eq : source.drop s.margin = s.line.toList
  caret_iff : ∀ i < s.margin + s.stopColumn - 1, carets[i]? = some '^' ↔
    ∃ c, s.startColumn ≤ c ∧ c < s.stopColumn ∧ i = s.margin + c - 1
  lead : ∀ i < s.margin + s.startColumn - 1,
    carets[i]? = some (if i = s.margin - 2 then '|' else ' ')
  label_eq : carets.drop (s.margin + s.stopColumn - 1) =
    match s.label with
    | none => []
    | some label => ' ' :: label.toList
  under : ∀ c, s.startColumn ≤ c → c < s.stopColumn → ∀ x ∈ s.line.toList[c - 1]?,
    source[s.margin + c - 1]? = some x ∧ carets[s.margin + c - 1]? = some '^'

/-! ## The lines -/

/-- What stands before the source line. -/
def gutter (s : Snippet) : List Char :=
  (padLeft s.gutterWidth ' ' (decimal s.lineNumber)).toList ++ [' ', '|', ' ']

/-- What stands before the first caret. -/
def lead (s : Snippet) : List Char :=
  List.replicate (s.gutterWidth + 1) ' ' ++ '|' :: List.replicate (s.indent + 1) ' '

theorem toList_sourceLine (s : Snippet) : s.sourceLine.toList = s.gutter ++ s.line.toList := by
  simp [sourceLine, gutter]

theorem toList_caretLine (s : Snippet) : s.caretLine.toList =
    s.lead ++ (List.replicate s.caretCount '^' ++ s.labelText.toList) := by
  rw [lead, List.replicate_succ', List.replicate_succ]
  simp [caretLine, repeated]

theorem length_gutter (s : Snippet) : s.gutter.length = s.margin := by
  simp only [gutter, padLeft, repeated, String.toList_append, String.toList_ofList,
    List.length_append, List.length_replicate, List.length_cons, List.length_nil, margin,
    gutterWidth, ← String.length_toList]
  omega

theorem length_lead (h : 1 ≤ s.startColumn) : s.lead.length = s.margin + s.startColumn - 1 := by
  simp only [lead, List.length_append, List.length_replicate, List.length_cons, margin, indent,
    gutterWidth]
  omega

theorem getElem?_lead {i : Nat} (hi : i < s.lead.length) :
    s.lead[i]? = some (if i = s.margin - 2 then '|' else ' ') := by
  have hbar : s.margin - 2 = s.gutterWidth + 1 := by
    simp only [margin, gutterWidth]
    omega
  rw [hbar]
  unfold lead at hi ⊢
  -- Blanks up to the bar, the bar, and blanks again.
  rw [List.getElem?_append, List.getElem?_cons]
  grind

theorem getElem?_caretLine {i : Nat} (h : 1 ≤ s.startColumn)
    (hstart : s.margin + s.startColumn - 1 ≤ i) (hstop : i < s.margin + s.stopColumn - 1) :
    s.caretLine.toList[i]? = some '^' := by
  have hlead := length_lead h
  have hcount : i - s.lead.length < s.caretCount := by
    simp only [stopColumn, caretCount] at *
    omega
  rw [toList_caretLine, List.getElem?_append_right (by omega),
    List.getElem?_append_left (by simpa using hcount), List.getElem?_replicate_of_lt hcount]

theorem getElem?_caretLine_of_lt {i : Nat} (hi : i < s.lead.length) :
    s.caretLine.toList[i]? = some (if i = s.margin - 2 then '|' else ' ') := by
  rw [toList_caretLine, List.getElem?_append_left hi, getElem?_lead hi]

theorem drop_caretLine (h : 1 ≤ s.startColumn) :
    s.caretLine.toList.drop (s.margin + s.stopColumn - 1) = s.labelText.toList := by
  have hlength : s.margin + s.stopColumn - 1 =
      (s.lead ++ List.replicate s.caretCount '^').length := by
    rw [List.length_append, length_lead h, List.length_replicate]
    simp only [stopColumn, caretCount]
    omega
  rw [toList_caretLine, ← List.append_assoc, hlength, List.drop_left]

/-- Before the label, there are carets under the columns of the range only. -/
theorem caret_iff {i : Nat} (h : 1 ≤ s.startColumn) (hi : i < s.margin + s.stopColumn - 1) :
    s.caretLine.toList[i]? = some '^' ↔
      ∃ c, s.startColumn ≤ c ∧ c < s.stopColumn ∧ i = s.margin + c - 1 := by
  have hlead := length_lead h
  constructor
  · intro hcaret
    have hstart : s.lead.length ≤ i := by
      by_contra hlt
      rw [getElem?_caretLine_of_lt (by omega), Option.some.injEq] at hcaret
      split at hcaret <;> simp at hcaret
    have hmargin : 3 ≤ s.margin := Nat.le_add_right 3 _
    exact ⟨i + 1 - s.margin, by omega, by omega, by omega⟩
  · rintro ⟨c, hstart, hstop, rfl⟩
    exact getElem?_caretLine h (by omega) hi

theorem aligned (h : 1 ≤ s.startColumn) : s.Aligned s.sourceLine.toList s.caretLine.toList := by
  refine ⟨?margin, ?source, fun i hi => caret_iff h hi, ?lead, ?label, ?under⟩
  case margin => simp [toList_sourceLine, length_gutter]
  case source => rw [toList_sourceLine, ← length_gutter, List.drop_left]
  case lead =>
    intro i hi
    exact getElem?_caretLine_of_lt (by rwa [length_lead h])
  case label =>
    rw [drop_caretLine h, labelText]
    cases s.label <;> simp
  case under =>
    intro c hstart hstop x hx
    refine ⟨?_, getElem?_caretLine h (by omega) (by omega)⟩
    have hindex : s.margin + c - 1 - s.gutter.length = c - 1 := by
      rw [length_gutter]
      omega
    rw [toList_sourceLine, List.getElem?_append_right (by rw [length_gutter]; omega), hindex]
    exact hx

/-! ## Two lines -/

theorem newline_not_mem_sourceLine (h : '\n' ∉ s.line.toList) : '\n' ∉ s.sourceLine.toList := by
  simp [toList_sourceLine, gutter, padLeft, repeated, not_mem_decimal, h]

theorem newline_not_mem_caretLine (h : ∀ label ∈ s.label, '\n' ∉ label.toList) :
    '\n' ∉ s.caretLine.toList := by
  have hlabel : '\n' ∉ s.labelText.toList := by
    unfold labelText
    split
    · rename_i label hlabel
      simpa using h label hlabel
    · simp
  simp [toList_caretLine, lead, hlabel]

/-- A snippet is written in two lines, and the carets in the second stand under their columns in the
first. -/
theorem format_aligned (s : Snippet) (hline : '\n' ∉ s.line.toList)
    (hlabel : ∀ label ∈ s.label, '\n' ∉ label.toList) (hstart : 1 ≤ s.startColumn) :
    ∃ source carets, splitAtChar '\n' s.format.toList = [source, carets] ∧
      s.Aligned source carets := by
  have hformat : s.format.toList = s.sourceLine.toList ++ '\n' :: s.caretLine.toList := by
    simp [format]
  refine ⟨_, _, ?_, aligned hstart⟩
  rw [hformat, splitAtChar_append, splitAtChar_of_not_mem (newline_not_mem_sourceLine hline),
    splitAtChar_of_not_mem (newline_not_mem_caretLine hlabel), List.singleton_append]

/-- A snippet with a long number, a reversed range and a label. -/
def longNumbered : Snippet := ⟨"ä = \"b", 12345, 5, 2, some "opened ^ here"⟩

theorem format_aligned_longNumbered :
    '\n' ∉ longNumbered.line.toList ∧ (∀ label ∈ longNumbered.label, '\n' ∉ label.toList) ∧
      1 ≤ longNumbered.startColumn ∧
      ∃ source carets, splitAtChar '\n' longNumbered.format.toList = [source, carets] ∧
        longNumbered.Aligned source carets := by
  have hline : '\n' ∉ longNumbered.line.toList := by decide
  have hlabel : ∀ label ∈ longNumbered.label, '\n' ∉ label.toList := by decide
  exact ⟨hline, hlabel, by decide, format_aligned longNumbered hline hlabel (by decide)⟩

end Snippet

end Lexeme
