import Lexeme.Proofs.Carets

/-!
# Lines of a source file

The line index of a file is a list of byte offsets; a line is asked for by its number, cut out from
its own offset up to the next one, and trimmed. The index is right about the text: its offsets are
the start of the text and the places just behind its line feeds, all lines can be cut out, together
they are the text, and a line says what stands between two line feeds, without the carriage returns
at its end.

As in the study of spans, a line is found through the whole lines before it: their line feeds are
its index, and their bytes are its offset.

## Main definitions

* `SourceFile.lineStop`, `SourceFile.fullLine`: where a line ends, and the line with its line end.
* `SourceFile.IndexesLines`: the line index is right about the text.

## Main statements

* `Text.getElem?_splitAtChar`: the stretch behind some whole lines.
* `Text.exists_wholeLines_of_le`: every line feed ends some whole lines.
* `mem_lineStartsAfter_iff`: lines start just behind line feeds.
* `SourceFile.mapM_fullLine`: the first lines, one behind the other.
* `SourceFile.lineAt_eq`: lines against the stretches between line feeds.
* `SourceFile.indexes_lines`: the line index of every file is right.
-/

namespace Lexeme

open Text

namespace Text

/-! ## Stretches between line feeds -/

theorem exists_splitAtChar_eq_cons (cs : List Char) :
    ∃ more, splitAtChar '\n' cs = firstLine cs :: more := by
  have hfirst := splitAtChar_of_not_mem (not_mem_firstLine cs)
  rcases firstLine_cases cs with h | ⟨rest, h⟩
  · rw [h] at hfirst
    exact ⟨[], by rw [h, hfirst]⟩
  · refine ⟨splitAtChar '\n' rest, ?_⟩
    conv_lhs => rw [h]
    rw [splitAtChar_append, hfirst, List.singleton_append]

/-- Behind some whole lines, the next stretch is the first line of the rest. -/
theorem getElem?_splitAtChar {front : List Char}
    (hfront : front = [] ∨ ∃ front', front = front' ++ ['\n']) (rest : List Char) :
    (splitAtChar '\n' (front ++ rest))[front.count '\n']? = some (firstLine rest) := by
  obtain ⟨more, hmore⟩ := exists_splitAtChar_eq_cons rest
  rcases hfront with rfl | ⟨front', rfl⟩
  · simp [hmore]
  · have hcount : (front' ++ ['\n']).count '\n' = (splitAtChar '\n' front').length := by
      rw [length_splitAtChar, List.count_append, List.count_singleton_self]
    rw [hcount, List.append_assoc, List.singleton_append, splitAtChar_append,
      List.getElem?_append_right (Nat.le_refl _), Nat.sub_self, hmore, List.getElem?_cons_zero]

/-- A text starts with any number of whole lines, up to the number of its line feeds. -/
theorem exists_wholeLines_of_le {count : Nat} {cs : List Char} (h : count ≤ cs.count '\n') :
    ∃ front rest, cs = front ++ rest ∧ (front = [] ∨ ∃ front', front = front' ++ ['\n']) ∧
      front.count '\n' = count := by
  induction count generalizing cs with
  | zero => exact ⟨[], cs, rfl, .inl rfl, rfl⟩
  | succ count ih =>
    have hfirst : (firstLine cs).count '\n' = 0 := List.count_eq_zero.mpr (not_mem_firstLine cs)
    rcases firstLine_cases cs with hcs | ⟨rest, hcs⟩
    · rw [hcs] at hfirst
      omega
    · have hcount : cs.count '\n' = rest.count '\n' + 1 := by
        conv_lhs => rw [hcs]
        rw [List.count_append, hfirst, List.count_cons_self, Nat.zero_add]
      have hle : count ≤ rest.count '\n' := by omega
      obtain ⟨front, more, rfl, hfront, hfeeds⟩ := ih hle
      refine ⟨firstLine cs ++ '\n' :: front, more, ?_, .inr ?_, ?_⟩
      · conv_lhs => rw [hcs]
        simp
      · rcases hfront with rfl | ⟨front', rfl⟩
        · exact ⟨firstLine cs, rfl⟩
        · exact ⟨firstLine cs ++ '\n' :: front', by simp⟩
      · rw [List.count_append, hfirst, List.count_cons_self, hfeeds, Nat.zero_add]

end Text

/-! ## Boundaries -/

theorem IsBoundary.le_byteSize {text : List Char} {offset : Nat} (h : IsBoundary text offset) :
    offset ≤ byteSize text := by
  obtain ⟨front, rest, rfl, rfl⟩ := h
  rw [byteSize_append]
  exact Nat.le_add_right _ _

/-- Between two boundaries, the text can be cut out. -/
theorem IsBoundary.exists_byteRange {text : List Char} {start stop : Nat}
    (hstart : IsBoundary text start) (hstop : IsBoundary text stop) (h : start ≤ stop) :
    ∃ range, byteRange start stop text = some range := by
  obtain ⟨front, rest, rfl, rfl⟩ := hstart
  obtain ⟨front', rest', hsplit, rfl⟩ := hstop
  rcases List.append_eq_append_iff.mp hsplit with ⟨range, rfl, rfl⟩ | ⟨excess, rfl, rfl⟩
  · refine ⟨range, (byteRange_eq_some_iff h).mpr ⟨front, rest', by simp, rfl, by simp⟩⟩
  · -- The first cut can come later than the second one only by nothing.
    obtain rfl : excess = [] := by
      by_contra hexcess
      have := byteSize_pos hexcess
      rw [byteSize_append] at h
      omega
    exact ⟨[], (byteRange_eq_some_iff h).mpr ⟨front', rest, by simp, by simp, by simp⟩⟩

/-! ## Line starts -/

/-- Lines start just behind the line feeds. -/
theorem mem_lineStartsAfter_iff {start offset : Nat} {cs : List Char} :
    start ∈ lineStartsAfter offset cs ↔
      ∃ front rest, cs = front ++ '\n' :: rest ∧ offset + byteSize front + 1 = start := by
  induction cs generalizing offset with
  | nil => simp [lineStartsAfter]
  | cons c cs ih =>
    have hlater := @ih (offset + c.utf8Size)
    have hcons : start ∈ lineStartsAfter offset (c :: cs) ↔ c = '\n' ∧ offset + 1 = start ∨
        start ∈ lineStartsAfter (offset + c.utf8Size) cs := by
      by_cases hc : c = '\n'
      · have hsize : ('\n' : Char).utf8Size = 1 := rfl
        simp [lineStartsAfter, hc, hsize, eq_comm]
      · simp [lineStartsAfter, hc]
    rw [hcons, hlater]
    constructor
    · rintro (⟨rfl, rfl⟩ | ⟨front, rest, rfl, rfl⟩)
      · exact ⟨[], cs, rfl, rfl⟩
      · exact ⟨c :: front, rest, rfl, by rw [byteSize_cons, ← Nat.add_assoc]⟩
    · rintro ⟨front, rest, hcs, rfl⟩
      cases front with
      | nil => exact .inl ⟨(List.cons.inj hcs).1, rfl⟩
      | cons x front =>
        obtain ⟨rfl, rfl⟩ := List.cons.inj hcs
        exact .inr ⟨front, rest, rfl, by rw [byteSize_cons, ← Nat.add_assoc]⟩

theorem pairwise_lineStartsAfter (offset : Nat) (cs : List Char) :
    (lineStartsAfter offset cs).Pairwise (· < ·) := by
  induction cs generalizing offset with
  | nil => exact .nil
  | cons c cs ih =>
    unfold lineStartsAfter
    split
    · refine .cons ?_ (ih _)
      intro start hstart
      obtain ⟨front, rest, -, rfl⟩ := mem_lineStartsAfter_iff.mp hstart
      omega
    · exact ih _

namespace SourceFile

variable {f : SourceFile}

theorem pairwise_lineStarts (f : SourceFile) : f.lineStarts.Pairwise (· < ·) := by
  refine .cons ?_ (pairwise_lineStartsAfter 0 _)
  intro start hstart
  obtain ⟨front, rest, -, rfl⟩ := mem_lineStartsAfter_iff.mp hstart
  omega

theorem isBoundary_of_mem_lineStarts : ∀ start ∈ f.lineStarts,
    IsBoundary f.content.toList start := by
  refine List.forall_mem_cons.mpr ⟨⟨[], _, rfl, rfl⟩, ?_⟩
  intro start hstart
  obtain ⟨front, rest, hcontent, rfl⟩ := mem_lineStartsAfter_iff.mp hstart
  exact ⟨front ++ ['\n'], rest, by simp [hcontent], by simp; rfl⟩

theorem isBoundary_size (f : SourceFile) : IsBoundary f.content.toList f.size :=
  ⟨f.content.toList, [], (List.append_nil _).symm, rfl⟩

/-! ## Full lines -/

/-- Where line `index`, counted from 0, ends: where the next one starts, or where the text ends. -/
def lineStop (f : SourceFile) (index : Nat) : Nat := (f.lineStart (index + 1)).getD f.size

/-- Line `index`, counted from 0, with its line end. -/
def fullLine (f : SourceFile) (index : Nat) : Option (List Char) := do
  let start ← f.lineStart index
  byteRange start (f.lineStop index) f.content.toList

/-- The line index is right about the text. -/
structure IndexesLines (f : SourceFile) : Prop where
  head?_eq : f.lineStarts.head? = some 0
  increasing : f.lineStarts.Pairwise (· < ·)
  le_size : ∀ start ∈ f.lineStarts, start ≤ f.size
  boundary : ∀ start ∈ f.lineStarts, IsBoundary f.content.toList start
  /-- All lines but the first one start just behind a line feed, and no line feed is left out. -/
  mem_tail_iff : ∀ start, start ∈ f.lineStarts.tail ↔
    ∃ front rest, f.content.toList = front ++ '\n' :: rest ∧ byteSize front + 1 = start
  lineCount_eq : f.lineCount = 1 + f.content.toList.count '\n'
  /-- No line is cut from back to front, out of bounds or through a character. -/
  cut : ∀ index < f.lineCount, ∃ start line, f.lineStart index = some start ∧
    start ≤ f.lineStop index ∧ f.lineStop index ≤ f.size ∧ f.fullLine index = some line
  /-- All lines with their line ends, in order, are the text. -/
  lossless : ∃ lines, (List.range f.lineCount).mapM f.fullLine = some lines ∧
    lines.flatten = f.content.toList
  lineAt_eq_none_iff : ∀ number, f.lineAt number = none ↔ number = 0 ∨ f.lineCount < number
  /-- A line is what stands between two line feeds, without the carriage returns at its end. -/
  lineAt_eq : ∀ index, f.lineAt (index + 1) =
    (splitAtChar '\n' f.content.toList)[index]?.map fun piece =>
      String.ofList (trimEnd (· == '\r') piece)

theorem lineStart_eq_none_iff {index : Nat} : f.lineStart index = none ↔ f.lineCount ≤ index :=
  List.getElem?_eq_none_iff

theorem mem_lineStarts_of_lineStart {index start : Nat} (h : f.lineStart index = some start) :
    start ∈ f.lineStarts := List.mem_of_getElem? h

theorem isBoundary_lineStop (f : SourceFile) (index : Nat) :
    IsBoundary f.content.toList (f.lineStop index) := by
  rw [lineStop]
  cases hnext : f.lineStart (index + 1) with
  | none => exact f.isBoundary_size
  | some next => exact isBoundary_of_mem_lineStarts next (mem_lineStarts_of_lineStart hnext)

theorem le_lineStop {index start : Nat} (h : f.lineStart index = some start) :
    start ≤ f.lineStop index := by
  rw [lineStop]
  cases hnext : f.lineStart (index + 1) with
  | none => exact (isBoundary_of_mem_lineStarts start (mem_lineStarts_of_lineStart h)).le_byteSize
  | some next =>
    obtain ⟨hindex, rfl⟩ := List.getElem?_eq_some_iff.mp h
    obtain ⟨hlt, rfl⟩ := List.getElem?_eq_some_iff.mp hnext
    exact Nat.le_of_lt
      (List.pairwise_iff_getElem.mp f.pairwise_lineStarts _ _ hindex hlt (Nat.lt_succ_self index))

theorem exists_lineStart {index : Nat} (h : index < f.lineCount) :
    ∃ start, f.lineStart index = some start :=
  ⟨_, List.getElem?_eq_getElem h⟩

theorem exists_fullLine {index start : Nat} (h : f.lineStart index = some start) :
    ∃ line, byteRange start (f.lineStop index) f.content.toList = some line ∧
      f.fullLine index = some line := by
  have hboundary := isBoundary_of_mem_lineStarts start (mem_lineStarts_of_lineStart h)
  obtain ⟨line, hline⟩ := hboundary.exists_byteRange (f.isBoundary_lineStop index) (le_lineStop h)
  exact ⟨line, hline, by simp [fullLine, h, hline]⟩

/-- The first lines, one behind the other, are the text up to where the next one starts. -/
theorem mapM_fullLine {count : Nat} (h : count ≤ f.lineCount) :
    ∃ lines, (List.range count).mapM f.fullLine = some lines ∧
      byteRange 0 ((f.lineStart count).getD f.size) f.content.toList = some lines.flatten := by
  induction count with
  | zero => exact ⟨[], rfl, byteRange_append [] [] f.content.toList⟩
  | succ count ih =>
    obtain ⟨lines, hlines, hfront⟩ := ih (Nat.le_of_succ_le h)
    obtain ⟨start, hstart⟩ := exists_lineStart h
    obtain ⟨line, hrange, hline⟩ := exists_fullLine hstart
    rw [hstart, Option.getD_some] at hfront
    refine ⟨lines ++ [line], ?_, ?_⟩
    · rw [List.range_succ, List.mapM_append, hlines]
      simp [hline]
    · rw [List.flatten_append, List.flatten_singleton]
      exact byteRange_trans (Nat.zero_le start) (le_lineStop hstart) hfront hrange

/-! ## Lines by their numbers -/

theorem length_splitAtChar_eq (f : SourceFile) :
    (splitAtChar '\n' f.content.toList).length = f.lineCount := by
  rw [length_splitAtChar, lineCount_eq, Nat.add_comm]

/-- A line is what stands between two line feeds, without the carriage returns at its end. -/
theorem lineAt_eq (f : SourceFile) (index : Nat) : f.lineAt (index + 1) =
    (splitAtChar '\n' f.content.toList)[index]?.map fun piece =>
      String.ofList (trimEnd (· == '\r') piece) := by
  by_cases hindex : index < f.lineCount
  · have hle : index ≤ f.content.toList.count '\n' := by
      rw [lineCount_eq] at hindex
      omega
    obtain ⟨front, rest, hcontent, hfront, rfl⟩ := exists_wholeLines_of_le hle
    rw [Nat.add_comm, lineAt_of_wholeLines hcontent hfront, hcontent,
      getElem?_splitAtChar hfront, Option.map_some]
  · have hle : f.lineCount ≤ index := Nat.le_of_not_lt hindex
    rw [List.getElem?_eq_none (by rwa [length_splitAtChar_eq]), Option.map_none]
    simp [lineAt, lineStart_eq_none_iff.mpr hle]

theorem lineAt_eq_none_iff {number : Nat} :
    f.lineAt number = none ↔ number = 0 ∨ f.lineCount < number := by
  cases number with
  | zero => simp [lineAt]
  | succ index =>
    rw [lineAt_eq, Option.map_eq_none_iff, List.getElem?_eq_none_iff, length_splitAtChar_eq]
    omega

theorem exists_lineAt {number : Nat} (hpos : 1 ≤ number) (hle : number ≤ f.lineCount) :
    ∃ line, f.lineAt number = some line := by
  refine Option.ne_none_iff_exists'.mp fun hnone => ?_
  have := lineAt_eq_none_iff.mp hnone
  omega

/-- The line index of every file is right: about where lines start, how many there are, and what
stands on them. -/
theorem indexes_lines (f : SourceFile) : f.IndexesLines := by
  refine ⟨rfl, f.pairwise_lineStarts, ?bounds, isBoundary_of_mem_lineStarts, ?tail, f.lineCount_eq,
    ?cut, ?lossless, fun _ => lineAt_eq_none_iff, f.lineAt_eq⟩
  case bounds =>
    intro start hstart
    exact (isBoundary_of_mem_lineStarts start hstart).le_byteSize
  case tail =>
    intro start
    rw [lineStarts, List.tail_cons, mem_lineStartsAfter_iff]
    simp
  case cut =>
    intro index hindex
    obtain ⟨start, hstart⟩ := exists_lineStart hindex
    obtain ⟨line, -, hline⟩ := exists_fullLine hstart
    exact ⟨start, line, hstart, le_lineStop hstart, (f.isBoundary_lineStop index).le_byteSize,
      hline⟩
  case lossless =>
    obtain ⟨lines, hlines, hall⟩ := mapM_fullLine (Nat.le_refl f.lineCount)
    have hwhole := byteRange_append [] f.content.toList []
    rw [lineStart_eq_none_iff.mpr (Nat.le_refl _), Option.getD_none] at hall
    simp only [byteSize_nil, Nat.zero_add, List.nil_append, List.append_nil] at hwhole
    exact ⟨lines, hlines, Option.some.inj (hall.symm.trans hwhole)⟩

end SourceFile

end Lexeme
