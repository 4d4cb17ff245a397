import Lexeme.Proofs.Lines
import Lexeme.Scan.Counter

/-!
# Limits of 32 bits

Lines and columns of 32 bits are enough for a text exactly if each of its lines has at most
`2^32 - 2` characters and it has at most `2^32 - 2` line feeds: counting starts at 1, and a lexer
also stands behind the last character of a line. Up to this limit all three ways to use a lexer up
yield what they would with numbers of any size; beyond it all three are cut short.

A scan passes its characters one by one, so it is cut short exactly if one of the places on its way
has a line or column that does not fit. Scans follow each other without a gap, and the last one ends
at the end of the text; together they visit every place in it.

## Main definitions

* `Text.FitsCounters`: the limit for a text.
* `YieldsIf`: a result that is cut short unless something holds.
* `Cursor.Fits`, `Cursor.FitsFor`: the counters fit at a cursor, and on its way over characters.
* `Lexer.FitsToEnd`: they fit on the way to the end of the text.
* `Span.CountedIn`: line and column of a span count what stands before it, and fit.
* `CountsExactly`: what counters of 32 bits do to a text.

## Main statements

* `Text.fitsCounters_iff`: the limit against the places of a text.
* `Cursor.yieldsIf_advanceN?`, `Lexer.yieldsIf_pull?`: when moves and pulls are cut short.
* `Lexer.fitsToEnd_iff`, `Lexer.yieldsIf_pulls?`: one pull on the way to the end, and then a run.
* `countsExactly`: the limit is exact for every text.
-/

namespace Lexeme

open Text

/-! ## Texts -/

namespace Text

/-- No line of the text is too long to be counted with 32 bits, and there are not too many. -/
def FitsCounters (cs : List Char) : Prop :=
  (∀ line ∈ splitAtChar '\n' cs, line.length ≤ UInt32.size - 2) ∧ cs.count '\n' ≤ UInt32.size - 2

instance (cs : List Char) : Decidable (FitsCounters cs) := inferInstanceAs (Decidable (_ ∧ _))

variable {cs : List Char}

/-- Each line of a text ends at some place of it. -/
theorem exists_take_of_mem_splitAtChar {line : List Char} (h : line ∈ splitAtChar '\n' cs) :
    ∃ n, line.length ≤ (lastLine (cs.take n)).length := by
  obtain ⟨index, hindex⟩ := List.getElem?_of_mem h
  obtain ⟨hlt, -⟩ := List.getElem?_eq_some_iff.mp hindex
  have hle : index ≤ cs.count '\n' := by
    rw [length_splitAtChar] at hlt
    omega
  obtain ⟨front, rest, rfl, hfront, rfl⟩ := exists_wholeLines_of_le hle
  rw [getElem?_splitAtChar hfront] at hindex
  obtain rfl := Option.some.inj hindex
  obtain ⟨more, hmore⟩ : firstLine rest <+: rest := List.takeWhile_prefix _
  refine ⟨(front ++ firstLine rest).length, ?_⟩
  have hsplit : front ++ rest = (front ++ firstLine rest) ++ more := by
    rw [List.append_assoc, hmore]
  rw [hsplit, List.take_left, lastLine_append_of_not_mem (not_mem_firstLine rest),
    List.length_append]
  exact Nat.le_add_left _ _

/-- The line on which a place stands is the start of a line of the text. -/
theorem exists_mem_splitAtChar (cs : List Char) (n : Nat) :
    ∃ line ∈ splitAtChar '\n' cs, (lastLine (cs.take n)).length ≤ line.length := by
  obtain ⟨front, htake, hfront⟩ := exists_wholeLines (cs.take n)
  have hsplit : cs = front ++ (lastLine (cs.take n) ++ cs.drop n) := by
    rw [← List.append_assoc, ← htake, List.take_append_drop]
  have hline := getElem?_splitAtChar hfront (lastLine (cs.take n) ++ cs.drop n)
  rw [← hsplit, firstLine_append_of_not_mem (not_mem_lastLine _)] at hline
  refine ⟨_, List.mem_of_getElem? hline, ?_⟩
  rw [List.length_append]
  exact Nat.le_add_right _ _

/-- The limit is kept if it is at every place of the text. -/
theorem fitsCounters_iff : FitsCounters cs ↔ ∀ n,
    (cs.take n).count '\n' ≤ UInt32.size - 2 ∧ (lastLine (cs.take n)).length ≤ UInt32.size - 2 := by
  constructor
  · rintro ⟨hlines, hcount⟩ n
    obtain ⟨line, hline, hle⟩ := exists_mem_splitAtChar cs n
    exact ⟨((List.take_sublist n cs).count_le '\n').trans hcount, hle.trans (hlines line hline)⟩
  · intro h
    refine ⟨?_, ?_⟩
    · intro line hline
      obtain ⟨n, hle⟩ := exists_take_of_mem_splitAtChar hline
      exact hle.trans (h n).2
    · have hall := (h cs.length).1
      rwa [List.take_length] at hall

end Text

/-! ## Results that may be cut short -/

/-- The result is `value` if `p` holds, and is cut short otherwise. -/
def YieldsIf {α : Type} (p : Prop) (result : Option α) (value : α) : Prop :=
  (p → result = some value) ∧ (¬p → result = none)

namespace YieldsIf

variable {α β : Type} {p q : Prop} {result : Option α} {value : α}

theorem congr (h : YieldsIf p result value) (hpq : q ↔ p) : YieldsIf q result value := by
  rwa [YieldsIf, hpq]

theorem map (h : YieldsIf p result value) (g : α → β) : YieldsIf p (result.map g) (g value) :=
  ⟨fun hp => by rw [h.1 hp, Option.map_some], fun hp => by rw [h.2 hp, Option.map_none]⟩

/-- What goes on from a result is cut short there or later. -/
theorem bind {next : α → Option β} {last : β} (h : YieldsIf p result value)
    (hnext : p → YieldsIf q (next value) last) : YieldsIf (p ∧ q) (result.bind next) last := by
  refine ⟨fun hpq => ?_, fun hpq => ?_⟩
  · rw [h.1 hpq.1, Option.bind_some, (hnext hpq.1).1 hpq.2]
  · by_cases hp : p
    · rw [h.1 hp, Option.bind_some, (hnext hp).2 fun hq => hpq ⟨hp, hq⟩]
    · rw [h.2 hp, Option.bind_none]

theorem eq_ite [Decidable p] (h : YieldsIf p result value) :
    result = if p then some value else none := by
  split
  · exact h.1 ‹p›
  · exact h.2 ‹¬p›

end YieldsIf

/-! ## Moves and scans -/

theorem yieldsIf_countUp? (n : Nat) : YieldsIf (n + 1 ≤ largestCount) (countUp? n) (n + 1) := by
  unfold countUp?
  refine ⟨fun h => if_pos ?_, fun h => if_neg ?_⟩ <;> omega

namespace Cursor

variable {c : Cursor}

/-- Line and column of the cursor fit 32 bits. -/
def Fits (c : Cursor) : Prop := c.line ≤ largestCount ∧ c.column ≤ largestCount

/-- Line and column fit here and on the way over the next `count` characters. -/
def FitsFor (c : Cursor) (count : Nat) : Prop := ∀ n ≤ count, (advanceN n c).Fits

theorem fitsFor_zero : c.FitsFor 0 ↔ c.Fits := by simp [FitsFor, advanceN]

theorem FitsFor.fits {count : Nat} (h : c.FitsFor count) : c.Fits := h 0 (Nat.zero_le count)

theorem fitsFor_add (m n : Nat) : c.FitsFor (m + n) ↔ c.FitsFor m ∧ (advanceN m c).FitsFor n := by
  constructor
  · intro h
    refine ⟨fun k hk => h k (by omega), fun k hk => ?_⟩
    rw [advanceN_advanceN]
    exact h (m + k) (by omega)
  · rintro ⟨hfirst, hmore⟩ k hk
    by_cases hkm : k ≤ m
    · exact hfirst k hkm
    · have hplace := hmore (k - m) (by omega)
      rwa [advanceN_advanceN, Nat.add_sub_cancel' (by omega)] at hplace

/-- With a counter that fits here, the way over one more character starts with one move. -/
theorem fitsFor_succ (h : c.Fits) (count : Nat) :
    c.FitsFor (count + 1) ↔ c.advance.Fits ∧ c.advance.FitsFor count := by
  rw [Nat.add_comm, fitsFor_add, advanceN_one]
  refine and_congr_left fun hrest => ⟨fun _ => hrest.fits, fun hadvance n hn => ?_⟩
  obtain rfl | rfl : n = 0 ∨ n = 1 := by omega
  · exact h
  · rwa [advanceN_one]

/-- A move is cut short exactly if it leads to a line or column that does not fit. -/
theorem yieldsIf_advance? (h : c.Fits) : YieldsIf c.advance.Fits c.advance? c.advance := by
  have hpos : 1 ≤ largestCount := by decide
  cases hafter : c.after with
  | nil =>
    have hstay : c.advance = c := by simp [advance, hafter]
    simp [YieldsIf, advance?, hafter, hstay, h]
  | cons x rest =>
    simp only [advance?, hafter]
    refine ((yieldsIf_countUp? _).map fun _ => c.advance).congr ?_
    by_cases hx : x = '\n'
    · simp [advance, Fits, hafter, hx, hpos]
    · simp [advance, Fits, hafter, hx, h.1]

/-- Several moves are cut short exactly if a counter does not fit on their way. -/
theorem yieldsIf_advanceN? (h : c.Fits) (count : Nat) :
    YieldsIf (c.FitsFor count) (advanceN? count c) (advanceN count c) := by
  induction count generalizing c with
  | zero => simp [YieldsIf, advanceN?, advanceN, fitsFor_zero, h]
  | succ count ih =>
    by_cases hend : c.isAtEnd = true
    · have hstay : c.FitsFor (count + 1) := by
        intro n _
        rwa [advanceN_of_isAtEnd hend]
      simp [YieldsIf, advanceN?, hend, advanceN_of_isAtEnd hend, hstay]
    · simp only [advanceN?, advanceN, hend, if_false, Bool.false_eq_true]
      -- The first character is the first place where the way can end; behind it, the counters fit.
      exact ((yieldsIf_advance? h).bind ih).congr (fitsFor_succ h count)

/-- A scan leads past its characters, and nowhere else. -/
theorem cursor_scan (c : Cursor) : c.scan.cursor = advanceN c.scanned c := by
  have hpassed : ∃ count ≤ c.after.length, c.scan.cursor = advanceN count c := by
    have hblanks : (c.after.takeWhile isBlank).length ≤ c.after.length :=
      (List.takeWhile_prefix isBlank).length_le
    cases hafter : c.skipBlanks.after with
    | nil => exact ⟨_, hblanks, by rw [scan_eq_scanEnd hafter]; rfl⟩
    | cons x text =>
      have htaken := congrArg List.length (Piece.taken_append_rest x text)
      rw [← hafter, after_skipBlanks, List.length_append, List.length_drop] at htaken
      refine ⟨(c.after.takeWhile isBlank).length + (Piece.cut x text).taken.length, by omega, ?_⟩
      rw [scan_eq_scanPiece hafter, ← advanceN_advanceN]
      rfl
  obtain ⟨count, hle, hcursor⟩ := hpassed
  have hscanned : c.scanned = count := by
    rw [scanned, hcursor, after_advanceN, List.length_drop]
    omega
  rw [hcursor, hscanned]

theorem scanned_le (c : Cursor) : c.scanned ≤ c.after.length := Nat.sub_le _ _

theorem after_scan (c : Cursor) : c.scan.cursor.after = c.after.drop c.scanned := by
  rw [cursor_scan, after_advanceN]

end Cursor

/-! ## Pulls -/

namespace Lexer

variable {l : Lexer}

/-- Line and column fit on the way to the end of the text. -/
def FitsToEnd (l : Lexer) : Prop := l.cursor.FitsFor l.cursor.after.length

/-- A pull is cut short exactly if a counter does not fit on the way of its scan. -/
theorem yieldsIf_pull? (h : l.cursor.Fits) :
    YieldsIf (l.cursor.FitsFor l.cursor.scanned) l.pull? l.pull :=
  ((Cursor.yieldsIf_advanceN? h l.cursor.scanned).map fun _ => l.cursor.scan).map fun _ => l.pull

/-- The way to the end goes over the next token, and on from there. -/
theorem fitsToEnd_iff :
    l.FitsToEnd ↔ l.cursor.FitsFor l.cursor.scanned ∧ l.pull.lexer.FitsToEnd := by
  have hsplit := Cursor.fitsFor_add (c := l.cursor) l.cursor.scanned
    (l.cursor.after.length - l.cursor.scanned)
  rw [Nat.add_sub_cancel' l.cursor.scanned_le] at hsplit
  have hcursor : l.pull.lexer.cursor = l.cursor.scan.cursor := rfl
  rw [FitsToEnd, FitsToEnd, hsplit, hcursor, Cursor.after_scan, List.length_drop,
    Cursor.cursor_scan]

/-- The scan of the end token passes all that is left. -/
theorem scanned_of_eof (heof : l.pull.token.kind = .eof) :
    l.cursor.scanned = l.cursor.after.length := by
  have hskip := Cursor.after_skipBlanks_of_eof heof
  rw [Cursor.scanned, Cursor.scan_eq_scanEnd hskip, Cursor.scanEnd, hskip]
  rfl

/-- A run up to the end token is cut short exactly if a counter does not fit on the way to the end
of the text. -/
theorem yieldsIf_pulls? (h : l.cursor.Fits) :
    YieldsIf l.FitsToEnd (l.pulls? l.drain.length) l.drain := by
  induction l using drain.induct with
  | case1 l p heof =>
    rw [drain_of_eof heof, FitsToEnd, ← scanned_of_eof heof]
    have hpull := (yieldsIf_pull? h).map fun p => [p]
    rwa [Option.map_eq_bind] at hpull
  | case2 l p hne ih =>
    rw [drain_of_ne_eof hne]
    refine ((yieldsIf_pull? h).bind fun hfits => ?_).congr fitsToEnd_iff
    -- Behind the token the counters fit, since its last character is on the way.
    have hnext : l.pull.lexer.cursor.Fits := by
      have hlast := hfits l.cursor.scanned (Nat.le_refl _)
      rwa [← Cursor.cursor_scan] at hlast
    exact (ih hnext).map _

end Lexer

/-- A strict run that meets no problem makes all pulls. -/
theorem strictPulls_of_mapM_eq_ok {pulls : List Pull} {tokens : List Token}
    (h : pulls.mapM Pull.strictResult = .ok tokens) : strictPulls pulls = pulls := by
  induction pulls generalizing tokens with
  | nil => rfl
  | cons p pulls ih =>
    cases hproblem : p.problem with
    | some problem => simp [Pull.strictResult, hproblem, bind, Except.bind] at h
    | none =>
      cases hmore : pulls.mapM Pull.strictResult with
      | error problem => simp [Pull.strictResult, hproblem, hmore, bind, Except.bind] at h
      | ok more => simp [strictPulls, hproblem, ih hmore]

/-! ## Whole texts -/

/-- A lexer that starts at a text finds its counters to fit exactly up to the limit. -/
theorem fitsToEnd_ofString_iff (text : String) :
    (Lexer.ofString text).FitsToEnd ↔ FitsCounters text.toList := by
  have hplace : ∀ n, (Cursor.advanceN n (Cursor.ofString text)).Fits ↔
      (text.toList.take n).count '\n' ≤ UInt32.size - 2 ∧
        (lastLine (text.toList.take n)).length ≤ UInt32.size - 2 := by
    intro n
    have hlocated := (Cursor.located_ofList text.toList).advanceN n
    have hbefore : (Cursor.advanceN n (Cursor.ofList text.toList)).before =
        (text.toList.take n).reverse := by
      simp [Cursor.before_advanceN, Cursor.ofList]
    have hline := hlocated.line
    have hcolumn := hlocated.column
    rw [hbefore, List.count_reverse] at hline
    rw [hbefore, ← List.length_reverse] at hcolumn
    rw [Cursor.Fits, Cursor.ofString, hline, hcolumn, lastLine, largestCount, UInt32.size]
    omega
  rw [fitsCounters_iff]
  constructor
  · intro h n
    by_cases hn : n ≤ text.toList.length
    · exact (hplace n).mp (h n hn)
    · have hall := (hplace text.toList.length).mp (h _ (Nat.le_refl _))
      rw [List.take_length] at hall
      rwa [List.take_of_length_le (by omega)]
  · intro h n _
    exact (hplace n).mpr (h n)

theorem fits_ofString (text : String) : (Lexer.ofString text).cursor.Fits := by
  have hpos : 1 ≤ largestCount := by decide
  exact ⟨hpos, hpos⟩

/-- Line and column of the span count what stands before it in the text: the line feeds, and the
characters on its line. Both fit 32 bits. -/
def Span.CountedIn (s : Span) (text : List Char) : Prop :=
  ∃ before rest, text = before ++ rest ∧ s.start = byteSize before ∧
    s.line = 1 + before.count '\n' ∧ s.column = 1 + (lastLine before).length ∧
    s.line ≤ UInt32.size - 1 ∧ s.column ≤ UInt32.size - 1

/-- Up to the limit, counters of 32 bits do not show; beyond it they use no text up. -/
structure CountsExactly (text : String) : Prop where
  tokenize?_eq : tokenize? text =
    if FitsCounters text.toList then some (tokenize text) else none
  check?_eq : check? text = if FitsCounters text.toList then some (check text) else none
  /-- A strict run that meets a problem need not come to the end, so nothing is said of it. -/
  tokenizeStrict?_eq : ∀ tokens, tokenizeStrict text = .ok tokens → tokenizeStrict? text =
    if FitsCounters text.toList then some (.ok tokens) else none
  tokens_counted : FitsCounters text.toList → ∀ t ∈ tokenize text, t.span.CountedIn text.toList
  problems_counted : FitsCounters text.toList →
    ∀ p ∈ (check text).problems, p.span.CountedIn text.toList

theorem countedIn_of_stream {text : String} (h : FitsCounters text.toList) :
    ∀ p ∈ stream text, p.1.span.CountedIn text.toList := by
  intro p hp
  obtain ⟨left, lexeme, right, htext, hspan, -, -⟩ := (stream_spec text).exists_place p hp
  rw [List.nil_append, List.append_assoc] at htext
  have hplace := fitsCounters_iff.mp h left.length
  rw [htext, List.take_left, UInt32.size] at hplace
  rw [hspan]
  refine ⟨left, lexeme ++ right, htext, rfl, rfl, rfl, ?_, ?_⟩
  · simp only [Span.over, UInt32.size]
    omega
  · simp only [Span.over, UInt32.size]
    omega

/-- The limit of the counters of 32 bits is exact for every text, in all three ways to use it up. -/
theorem countsExactly (text : String) : CountsExactly text := by
  have hrun : YieldsIf (FitsCounters text.toList)
      ((Lexer.ofString text).pulls? (Lexer.ofString text).drain.length)
      (Lexer.ofString text).drain :=
    (Lexer.yieldsIf_pulls? (fits_ofString text)).congr (fitsToEnd_ofString_iff text).symm
  refine ⟨?tokenize, ?check, ?strict, ?tokens, ?problems⟩
  case tokenize =>
    have hvalue := (Lexer.ofString text).collect_fst none
    rw [tokenize, hvalue]
    exact (hrun.map _).eq_ite
  case check =>
    rw [check, Lexer.check_eq_foldr]
    exact (hrun.map _).eq_ite
  case strict =>
    intro tokens hok
    rw [tokenizeStrict, Lexer.collectStrict_eq_mapM] at hok
    have hrun' := hrun.map fun pulls => pulls.mapM Pull.strictResult
    rw [hok] at hrun'
    rw [tokenizeStrict?, strictPulls_of_mapM_eq_ok hok]
    exact hrun'.eq_ite
  case tokens =>
    intro h
    rw [tokenize_eq]
    exact List.forall_mem_map.mpr (countedIn_of_stream h)
  case problems =>
    intro h problem hproblem
    rw [problems_check_eq] at hproblem
    obtain ⟨p, hp, hsome⟩ := List.mem_filterMap.mp hproblem
    rw [(stream_spec text).problem_span p hp problem hsome]
    exact countedIn_of_stream h p hp

end Lexeme
