import Lexeme.Proofs.Problems

/-!
# Tokens of concatenated texts

Behind a text with paired quotes and at least one blank, another text is read as if it stood alone,
only further on. So the tokens of the whole are those of the first text without its end token, and
then those of the second one, moved; the same holds of the problems.

Two facts carry this. A piece that is cut from the front of a text is cut from it as well when
blanks and more text follow, unless it is an open string literal. And the place of a piece is known
from the text before it, so that more text before it moves it: its columns change just as long as
it stands on the first line.

## Main definitions

* `Span.shift`, `Token.shift`, `Problem.shift`: the same, moved behind another text.

## Main statements

* `Span.over_append`: more text before a stretch shifts its span.
* `Stream.shift`: more text before another one shifts its stream.
* `Piece.Shape.append_blank`: a piece does not change when a blank follows the text.
* `Stream.append`: the stream of a concatenation.
* `tokenize_append`: tokens and problems of a concatenation.
-/

namespace Lexeme

open Text

/-! ## Moving behind another text -/

/-- The span, once `front` stands before its text. Columns change on the first line only, where the
last line of `front` goes on. -/
def Span.shift (front : List Char) (s : Span) : Span where
  start := s.start + byteSize front
  stop := s.stop + byteSize front
  line := s.line + front.count '\n'
  column := if s.line = 1 then s.column + (lastLine front).length else s.column

def Token.shift (front : List Char) (t : Token) : Token := { t with span := t.span.shift front }

def Problem.shift (front : List Char) (p : Problem) : Problem :=
  { p with span := p.span.shift front }

/-- What is handed out, once `front` stands before the text. -/
def shiftPull (front : List Char) (p : Token × Option Problem) : Token × Option Problem :=
  (p.1.shift front, p.2.map (Problem.shift front))

theorem map_fst_shiftPull (front : List Char) (pulls : List (Token × Option Problem)) :
    (pulls.map (shiftPull front)).map Prod.fst = (pulls.map Prod.fst).map (Token.shift front) := by
  rw [List.map_map, List.map_map]
  exact List.map_congr_left fun p _ => rfl

theorem filterMap_snd_shiftPull (front : List Char) (pulls : List (Token × Option Problem)) :
    (pulls.map (shiftPull front)).filterMap Prod.snd =
      (pulls.filterMap Prod.snd).map (Problem.shift front) :=
  List.filterMap_map.trans List.map_filterMap.symm

/-- More text before a stretch shifts its span. -/
theorem Span.over_append (front before taken : List Char) :
    Span.over (front ++ before) taken = (Span.over before taken).shift front := by
  have hline : (Span.over before taken).line = 1 + before.count '\n' := rfl
  by_cases hfeed : '\n' ∈ before
  · have hcount := List.count_pos_iff.mpr hfeed
    have hlater : (Span.over before taken).line ≠ 1 := by omega
    simp only [shift, if_neg hlater]
    simp only [Span.over, byteSize_append, List.count_append, lastLine_append_of_mem hfeed,
      Span.mk.injEq, and_true]
    omega
  · have hcount := List.count_eq_zero.mpr hfeed
    have hfirst : (Span.over before taken).line = 1 := by omega
    have hbefore : lastLine before = before := lastLine_append_of_not_mem hfeed []
    simp only [shift, if_pos hfirst]
    simp only [Span.over, byteSize_append, List.count_append, lastLine_append_of_not_mem hfeed,
      hbefore, List.length_append, Span.mk.injEq]
    omega

namespace Stream

variable {before text : List Char} {pulls : List (Token × Option Problem)}

/-- More text before another one shifts its stream. -/
theorem shift (h : Stream before text pulls) (front : List Char) :
    Stream (front ++ before) text (pulls.map (shiftPull front)) := by
  induction h with
  | @done before blanks hblanks =>
    have hend : (Token.endAt (before ++ blanks)).shift front =
        .endAt (front ++ before ++ blanks) := by
      simp [Token.endAt, Token.shift, Span.over_append]
    rw [List.map_singleton, shiftPull, hend]
    exact .done hblanks
  | @piece before blanks text x piece pulls hblanks hx hshape _ ih =>
    have htoken : (piece.tokenAt (before ++ blanks)).shift front =
        piece.tokenAt (front ++ before ++ blanks) := by
      simp [Piece.tokenAt, Token.shift, Span.over_append]
    have hproblem : (piece.problemAt (before ++ blanks)).map (Problem.shift front) =
        piece.problemAt (front ++ before ++ blanks) := by
      cases hflaw : piece.flaw <;>
        simp [Piece.problemAt, Problem.shift, Span.over_append, hflaw]
    rw [List.map_cons, shiftPull, htoken, hproblem]
    refine .piece hblanks hx hshape ?_
    simpa using ih

/-- Blanks may be skipped before a stream. -/
theorem append_blanks {blanks : List Char} (h : Stream (before ++ blanks) text pulls)
    (hblanks : ∀ c ∈ blanks, isBlank c = true) : Stream before (blanks ++ text) pulls := by
  generalize hall : before ++ blanks = all at h
  have hmore : ∀ more : List Char, (∀ c ∈ more, isBlank c = true) →
      ∀ c ∈ blanks ++ more, isBlank c = true := by
    intro more hmore c hc
    exact (List.mem_append.mp hc).elim (hblanks c) (hmore c)
  cases h with
  | done hmore' =>
    subst hall
    have hdone := @Stream.done before _ (hmore _ hmore')
    rwa [← List.append_assoc] at hdone
  | piece hmore' hx hshape hrest =>
    subst hall
    rw [List.append_assoc before] at hrest ⊢
    rw [← List.append_assoc]
    exact .piece (hmore _ hmore') hx hshape hrest

end Stream

/-! ## Text behind a piece -/

theorem forall_head?_append {p : Char → Prop} {xs ys : List Char} (hxs : ∀ c ∈ xs.head?, p c)
    (hys : ∀ c ∈ ys.head?, p c) : ∀ c ∈ (xs ++ ys).head?, p c := by
  cases xs with
  | nil => exact hys
  | cons x xs => exact hxs

theorem head?_append_ne {x : Char} {text more : List Char} (hx : x ∈ punctuation)
    (htext : text.head? ≠ some x) (hmore : ∀ c ∈ more.head?, isBlank c = true) :
    (text ++ more).head? ≠ some x := by
  have hne : ∀ c ∈ (text ++ more).head?, c ≠ x := by
    refine forall_head?_append ?_ ?_
    · rintro c hc rfl
      exact htext hc
    · rintro c hc rfl
      exact not_mem_punctuation_of_isBlank (hmore c hc) hx
  intro hhead
  exact hne x hhead rfl

/-- A piece does not change when a blank follows the text, since no token reads on into a blank.
Only an open string literal does. -/
theorem Piece.Shape.append_blank {x : Char} {text more : List Char} {piece : Piece}
    (h : piece.Shape x text) (hflaw : piece.flaw ≠ some .unterminatedString)
    (hmore : ∀ c ∈ more.head?, isBlank c = true) :
    Shape x (text ++ more) { piece with rest := piece.rest ++ more } := by
  cases h with
  | number hx hdigits hrest =>
    rw [List.append_assoc]
    exact .number hx hdigits
      (forall_head?_append hrest fun c hc => isDigit_of_isBlank (hmore c hc))
  | closed hinner =>
    rw [List.append_assoc, List.cons_append]
    exact .closed hinner
  | unclosed => exact absurd rfl hflaw
  | equal hx => exact .equal hx
  | alone hx htext => exact .alone hx (head?_append_ne (by decide) htext hmore)
  | double hx => exact .double hx
  | half hx htext =>
    exact .half hx (head?_append_ne (mem_punctuation_of_doubled hx) htext hmore)
  | single hx => exact .single hx
  | word hx hwords hrest =>
    rw [List.append_assoc]
    exact .word hx hwords
      (forall_head?_append hrest fun c hc => isIdentContinue_of_isBlank (hmore c hc))
  | stray hx hdigit hstart => exact .stray hx hdigit hstart

/-! ## Concatenation -/

/-- Where a token starts and all quotes are paired, no string literal is left open. -/
theorem Piece.Shape.flaw_ne_unterminated {x : Char} {before text : List Char} {piece : Piece}
    (h : piece.Shape x text) (hbefore : Paired before (x :: text))
    (heven : (before ++ x :: text).count '"' % 2 = 0) :
    piece.flaw ≠ some .unterminatedString := by
  intro hflaw
  obtain ⟨rfl, htext, -⟩ := h.eq_of_unterminated hflaw
  have hquotes := hbefore.quotes
  rw [List.count_append, List.count_cons_self, List.count_eq_zero.mpr htext] at heven
  omega

/-- The stream of a text with paired quotes goes on, behind a blank, with the stream of what
follows. By induction on the first stream: its pieces stay, and its end token gives way. -/
theorem Stream.append {before text gap more : List Char}
    {pulls pulls' : List (Token × Option Problem)} (h : Stream before text pulls)
    (hpaired : Paired before text) (heven : (before ++ text).count '"' % 2 = 0) (hgap : gap ≠ [])
    (hblanks : ∀ c ∈ gap, isBlank c = true) (h' : Stream (before ++ text ++ gap) more pulls') :
    ∃ body, pulls = body ++ [(.endAt (before ++ text), none)] ∧
      Stream before (text ++ (gap ++ more)) (body ++ pulls') := by
  induction h with
  | @done before blanks hblanks' =>
    exact ⟨[], rfl, (h'.append_blanks hblanks).append_blanks hblanks'⟩
  | @piece before blanks text x piece pulls hblanks' hx hshape _ ih =>
    have hharmless : ∀ c ∈ blanks, Harmless c := fun c hc => harmless_of_isBlank (hblanks' c hc)
    obtain ⟨hstart, -⟩ := hpaired.append_harmless hharmless
    have hflaw : piece.flaw ≠ some .unterminatedString :=
      hshape.flaw_ne_unterminated hstart (by simpa using heven)
    obtain ⟨hnext, -⟩ := hshape.paired hx hstart hflaw
    rw [hshape.append_text] at heven h' ⊢
    obtain ⟨body, rfl, hbody⟩ := ih hnext heven h'
    have hfront : ∀ c ∈ (gap ++ more).head?, isBlank c = true := by
      obtain ⟨c, gap, rfl⟩ := List.exists_cons_of_ne_nil hgap
      simpa using hblanks c List.mem_cons_self
    refine ⟨_ :: body, rfl, ?_⟩
    rw [List.append_assoc, List.cons_append]
    refine @Stream.piece _ _ _ _ { piece with rest := piece.rest ++ (gap ++ more) } _ hblanks' hx ?_
      hbody
    exact hshape.append_blank hflaw hfront

/-- The tokens of two texts with blanks between them, when quotes are paired in the first: those of
the first without its end token, and those of the second moved behind it. The problems are those of
the first and those of the second moved as well. -/
theorem tokenize_append (a w b : String) (hw : w ≠ "") (hblanks : ∀ c ∈ w.toList, isBlank c = true)
    (heven : a.toList.count '"' % 2 = 0) :
    (∃ body last, tokenize a = body ++ [last] ∧ last.kind = .eof ∧
        tokenize (a ++ w ++ b) = body ++ (tokenize b).map (Token.shift (a ++ w).toList)) ∧
      (check (a ++ w ++ b)).problems =
        (check a).problems ++ (check b).problems.map (Problem.shift (a ++ w).toList) := by
  have hgap : w.toList ≠ [] := by simpa using hw
  have hb := (stream_spec b).shift (a.toList ++ w.toList)
  rw [List.append_nil] at hb
  obtain ⟨body, ha, hbody⟩ :=
    (stream_spec a).append ⟨rfl, fun _ _ _ => rfl⟩ (by simpa using heven) hgap hblanks hb
  have hstream := (stream_spec (a ++ w ++ b)).unique (by simpa using hbody)
  rw [tokenize_eq, tokenize_eq, tokenize_eq, problems_check_eq, problems_check_eq,
    problems_check_eq, hstream, ha, String.toList_append]
  refine ⟨⟨body.map Prod.fst, _, List.map_append, rfl, ?_⟩, ?_⟩
  · rw [List.map_append, map_fst_shiftPull]
  · rw [List.filterMap_append, filterMap_snd_shiftPull, List.filterMap_append]
    simp

/-- Half an operator and a string literal over two lines before the blanks, the other half and an
open string literal behind them. -/
theorem tokenize_append_halves :
    (∃ body last, tokenize "x = \"é\n\" &" = body ++ [last] ∧ last.kind = .eof ∧
        tokenize ("x = \"é\n\" &" ++ "\n " ++ "& y\n\"z") =
          body ++ (tokenize "& y\n\"z").map (Token.shift ("x = \"é\n\" &" ++ "\n ").toList)) ∧
      (check ("x = \"é\n\" &" ++ "\n " ++ "& y\n\"z")).problems =
        (check "x = \"é\n\" &").problems ++
          (check "& y\n\"z").problems.map (Problem.shift ("x = \"é\n\" &" ++ "\n ").toList) := by
  have hblanks : isBlank '\n' = true ∧ isBlank ' ' = true := by decide +kernel
  exact tokenize_append _ _ _ (by decide) (by simpa using hblanks) (by decide +kernel)

end Lexeme
