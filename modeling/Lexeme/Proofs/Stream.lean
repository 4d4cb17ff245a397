import Lexeme.Proofs.Place
import Lexeme.Proofs.Shape

/-!
# Streams of tokens

What a lexer hands out up to the end token, told without cursors: blanks are skipped, a piece is
cut, and the rest of the text is read on from there. Each token and each problem carries the span
that the text before it determines. All three ways to use a lexer up are views of this one stream.

## Main definitions

* `Stream`: the tokens and problems of a text that stands behind another.
* `Span.Precedes`: a span that is not empty, and another one behind it in the same text.
* `stream`: what is handed out for a whole text.

## Main statements

* `Stream.unique`: a text has one stream.
* `Stream.mem_cases`: where the tokens of a stream come from.
* `Stream.problem_span`, `Stream.precedes`: problems stand where their tokens do, and these follow
  each other.
* `Lexer.stream_drain`: a lexer that stands at a place hands out the stream from there.
* `tokenize_eq`, `tokenizeWith_eq`, `tokens_check_eq`, `problems_check_eq`, `tokenizeStrict_eq`:
  tokens, warnings, problems and strict results are read off the stream.
-/

namespace Lexeme

open Text

namespace Piece

/-- The token of a piece, with `before` standing before it. -/
def tokenAt (piece : Piece) (before : List Char) : Token :=
  ⟨piece.kind, String.ofList piece.value, .over before piece.taken⟩

/-- The problem of a piece, with `before` standing before it. -/
def problemAt (piece : Piece) (before : List Char) : Option Problem :=
  piece.flaw.map (⟨·, .over before piece.taken⟩)

end Piece

/-- The end token, behind `before`. -/
def Token.endAt (before : List Char) : Token := ⟨.eof, "", .over before []⟩

/-- `Stream before text pulls`: for `text`, with `before` standing before it, the tokens of `pulls`
are handed out, each with its problem. -/
inductive Stream : List Char → List Char → List (Token × Option Problem) → Prop
  | done {before blanks : List Char} (hblanks : ∀ c ∈ blanks, isBlank c = true) :
      Stream before blanks [(.endAt (before ++ blanks), none)]
  | piece {before blanks text : List Char} {x : Char} {piece : Piece}
      {pulls : List (Token × Option Problem)} (hblanks : ∀ c ∈ blanks, isBlank c = true)
      (hx : isBlank x = false) (hshape : piece.Shape x text)
      (hrest : Stream (before ++ blanks ++ piece.taken) piece.rest pulls) :
      Stream before (blanks ++ x :: text)
        ((piece.tokenAt (before ++ blanks), piece.problemAt (before ++ blanks)) :: pulls)

namespace Stream

variable {before blanks text : List Char} {pulls : List (Token × Option Problem)}

/-! ## One stream for each text -/

theorem eq_of_blank (h : Stream before text pulls) (htext : ∀ c ∈ text, isBlank c = true) :
    pulls = [(.endAt (before ++ text), none)] := by
  cases h with
  | done => rfl
  | @piece _ _ _ x _ _ _ hx =>
    have := htext x (by simp)
    simp [hx] at this

/-- A stream starts with the piece behind the blanks. -/
theorem exists_of_shape {x : Char} {piece : Piece} (h : Stream before (blanks ++ x :: text) pulls)
    (hblanks : ∀ c ∈ blanks, isBlank c = true) (hx : isBlank x = false)
    (hshape : piece.Shape x text) :
    ∃ rest, pulls = (piece.tokenAt (before ++ blanks), piece.problemAt (before ++ blanks)) :: rest ∧
      Stream (before ++ blanks ++ piece.taken) piece.rest rest := by
  generalize htext : blanks ++ x :: text = all at h
  cases h with
  | done hall =>
    have := hall x (by simp [← htext])
    simp [hx] at this
  | @piece _ blanks' text' x' piece' rest hblanks' hx' hshape' hrest =>
    have htake := congrArg (List.takeWhile isBlank) htext
    have hdrop := congrArg (List.dropWhile isBlank) htext
    simp only [List.takeWhile_append_of_pos hblanks, List.takeWhile_append_of_pos hblanks',
      List.takeWhile_cons, hx, hx'] at htake
    simp only [List.dropWhile_append_of_pos hblanks, List.dropWhile_append_of_pos hblanks',
      List.dropWhile_cons, hx, hx'] at hdrop
    obtain rfl : blanks = blanks' := by simpa using htake
    obtain ⟨rfl, rfl⟩ : x = x' ∧ text = text' := by simpa using hdrop
    obtain rfl : piece = piece' := hshape.cut_eq.symm.trans hshape'.cut_eq
    exact ⟨rest, rfl, hrest⟩

/-- A text has one stream. -/
theorem unique {pulls' : List (Token × Option Problem)} (h : Stream before text pulls)
    (h' : Stream before text pulls') : pulls = pulls' := by
  induction h generalizing pulls' with
  | done hblanks => exact (h'.eq_of_blank hblanks).symm
  | piece hblanks hx hshape _ ih =>
    obtain ⟨rest, rfl, hrest⟩ := h'.exists_of_shape hblanks hx hshape
    rw [ih hrest]

/-! ## Spans in a stream -/

/-- Each token of a stream is the end token, behind all of the text, or comes from a piece at its
place, which starts with no blank. -/
theorem mem_cases (h : Stream before text pulls) : ∀ p ∈ pulls,
    p = (.endAt (before ++ text), none) ∨
      ∃ left x rest piece, isBlank x = false ∧ Piece.Shape x rest piece ∧
        before ++ text = left ++ piece.taken ++ piece.rest ∧
        p = (piece.tokenAt left, piece.problemAt left) := by
  induction h with
  | done => simp
  | @piece before blanks text x piece pulls hblanks hx hshape _ ih =>
    rw [hshape.append_text]
    refine List.forall_mem_cons.mpr ⟨?_, ih⟩
    exact .inr ⟨before ++ blanks, x, text, piece, hx, hshape, rfl, rfl⟩

/-- A problem stands where its token does. -/
theorem problem_span (h : Stream before text pulls) :
    ∀ p ∈ pulls, ∀ problem ∈ p.2, problem.span = p.1.span := by
  intro p hp problem hproblem
  obtain rfl | ⟨left, x, rest, piece, -, -, -, rfl⟩ := h.mem_cases p hp
  · cases hproblem
  · obtain ⟨flaw, -, rfl⟩ := Option.map_eq_some_iff.mp hproblem
    rfl

/-- Each token of a stream starts somewhere behind the text that stands before. -/
theorem exists_span_eq (h : Stream before text pulls) :
    ∀ p ∈ pulls, ∃ more taken, p.1.span = .over (before ++ more) taken := by
  induction h with
  | @done before blanks => simpa using ⟨blanks, [], rfl⟩
  | @piece before blanks _ _ piece _ _ _ _ _ ih =>
    refine List.forall_mem_cons.mpr ⟨⟨blanks, piece.taken, rfl⟩, ?_⟩
    intro p hp
    obtain ⟨more, taken, hspan⟩ := ih p hp
    exact ⟨blanks ++ piece.taken ++ more, taken, by simpa using hspan⟩

end Stream

/-- In one text, `t` starts behind the stretch of `s`, which is not empty. -/
def Span.Precedes (s t : Span) : Prop :=
  ∃ before taken more next, taken ≠ [] ∧ s = .over before taken ∧
    t = .over (before ++ taken ++ more) next

theorem Span.Precedes.start_lt {s t : Span} (h : s.Precedes t) : s.start < t.start := by
  obtain ⟨before, taken, more, next, htaken, rfl, rfl⟩ := h
  have := byteSize_pos htaken
  simp only [Span.over, byteSize_append]
  omega

theorem Span.Precedes.stop_le_start {s t : Span} (h : s.Precedes t) : s.stop ≤ t.start := by
  obtain ⟨before, taken, more, next, htaken, rfl, rfl⟩ := h
  simp only [Span.over, byteSize_append]
  omega

/-- Each token of a stream is followed by the others. -/
theorem Stream.precedes {before text : List Char} {pulls : List (Token × Option Problem)}
    (h : Stream before text pulls) : pulls.Pairwise fun p p' => p.1.span.Precedes p'.1.span := by
  induction h with
  | done => simp
  | @piece before blanks _ _ piece _ _ _ hshape hrest ih =>
    refine List.pairwise_cons.mpr ⟨?_, ih⟩
    intro p hp
    obtain ⟨more, next, hspan⟩ := hrest.exists_span_eq p hp
    exact ⟨before ++ blanks, piece.taken, more, next, List.ne_nil_of_mem hshape.mem_taken, rfl,
      hspan⟩

namespace Cursor

variable {c : Cursor}

theorem scan_eq_scanEnd (h : c.skipBlanks.after = []) : c.scan = c.skipBlanks.scanEnd := by
  simp only [scan, scanHere, h]

theorem scan_eq_scanPiece {x : Char} {text : List Char} (h : c.skipBlanks.after = x :: text) :
    c.scan = c.skipBlanks.scanPiece (Piece.cut x text) := by
  simp only [scan, scanHere, h]

/-- The end token is scanned where only blanks are left. -/
theorem after_skipBlanks_of_eof (h : c.scan.token.kind = .eof) : c.skipBlanks.after = [] := by
  cases hcons : c.skipBlanks.after with
  | nil => rfl
  | cons x text =>
    refine absurd ?_ (Piece.cut_shape x text).kind_ne_eof
    simpa [scan_eq_scanPiece hcons, scanPiece] using h

theorem Located.scanEnd (h : c.Located) : c.scanEnd = ⟨.endAt c.before.reverse, none, c⟩ := by
  simp [Cursor.scanEnd, Token.endAt, Span.point, Span.over, lastLine, h.position, h.line, h.column]

/-- With only blanks ahead, the end token is scanned. -/
theorem Located.scan_of_blank (h : c.Located) (hafter : c.after.dropWhile isBlank = []) :
    c.scan = ⟨.endAt (c.before.reverse ++ c.after), none, c.skipBlanks⟩ := by
  have hblanks : c.after.takeWhile isBlank = c.after := by
    have happend := List.takeWhile_append_dropWhile (p := isBlank) (l := c.after)
    rwa [hafter, List.append_nil] at happend
  have hbefore : c.skipBlanks.before.reverse = c.before.reverse ++ c.after := by
    rw [before_skipBlanks, hblanks, List.reverse_append, List.reverse_reverse]
  rw [scan_eq_scanEnd (by rw [after_skipBlanks_eq_dropWhile, hafter]), h.skipBlanks.scanEnd,
    hbefore]

/-- The token and the problem of a piece that lies ahead of a located cursor. -/
theorem Located.scanPiece (h : c.Located) {piece : Piece}
    (hafter : c.after = piece.taken ++ piece.rest) :
    c.scanPiece piece = ⟨piece.tokenAt c.before.reverse, piece.problemAt c.before.reverse,
      Cursor.advanceN piece.taken.length c⟩ := by
  simp only [Cursor.scanPiece, h.spanTo hafter, Piece.tokenAt, Piece.problemAt]

end Cursor

namespace Lexer

theorem drain_of_eof {l : Lexer} (h : l.pull.token.kind = .eof) : l.drain = [l.pull] := by
  rw [drain]
  simp [h]

theorem drain_of_ne_eof {l : Lexer} (h : l.pull.token.kind ≠ .eof) :
    l.drain = l.pull :: l.pull.lexer.drain := by
  rw [drain]
  simp [h]

/-- The pulls end with the one that yields the end token. -/
theorem drain_ends (l : Lexer) : ∃ body last, l.drain = body ++ [last] ∧
    (∀ p ∈ body, p.token.kind ≠ .eof) ∧ last.token.kind = .eof := by
  fun_induction drain l with
  | case1 l p heof => exact ⟨[], p, rfl, by simp, heof⟩
  | case2 l p hne ih =>
    obtain ⟨body, last, heq, hbody, hlast⟩ := ih
    exact ⟨p :: body, last, by rw [heq]; rfl, List.forall_mem_cons.mpr ⟨hne, hbody⟩, hlast⟩

theorem drain_ne_nil (l : Lexer) : l.drain ≠ [] := by
  obtain ⟨body, last, heq, -, -⟩ := l.drain_ends
  simp [heq]

end Lexer

/-- What one pull yields, without the log and the lexer. -/
def Pull.outcome (p : Pull) : Token × Option Problem := (p.token, p.problem)

/-- The piece behind the blanks, once a located cursor has scanned it: its outcome, and the place
where the cursor then stands. -/
theorem Cursor.Located.scan_of_cons {c : Cursor} (h : c.Located) {x : Char} {text : List Char}
    (hafter : c.after.dropWhile isBlank = x :: text) :
    let blanks := c.after.takeWhile isBlank
    let piece := Piece.cut x text
    c.scan.token = piece.tokenAt (c.before.reverse ++ blanks) ∧
      c.scan.problem = piece.problemAt (c.before.reverse ++ blanks) ∧
      c.scan.cursor.Located ∧
      c.scan.cursor.before.reverse = c.before.reverse ++ blanks ++ piece.taken ∧
      c.scan.cursor.after = piece.rest := by
  have hskip := h.skipBlanks
  have htext : c.skipBlanks.after = (Piece.cut x text).taken ++ (Piece.cut x text).rest := by
    rw [after_skipBlanks_eq_dropWhile, hafter, (Piece.cut_shape x text).text_eq]
  have hbefore : c.skipBlanks.before.reverse = c.before.reverse ++ c.after.takeWhile isBlank := by
    rw [before_skipBlanks, List.reverse_append, List.reverse_reverse]
  rw [scan_eq_scanPiece (by rw [after_skipBlanks_eq_dropWhile, hafter]), hskip.scanPiece htext,
    hbefore]
  refine ⟨rfl, rfl, hskip.advanceN _, ?_, after_advanceN_length htext⟩
  rw [before_advanceN_length htext, List.reverse_append, List.reverse_reverse, hbefore]

/-- A lexer that stands at a place hands out the stream from there. -/
theorem Lexer.stream_drain (l : Lexer) (h : l.cursor.Located) :
    Stream l.cursor.before.reverse l.cursor.after (l.drain.map Pull.outcome) := by
  have hsplit := List.takeWhile_append_dropWhile (p := isBlank) (l := l.cursor.after)
  have hblanks := List.all_eq_true.mp (List.all_takeWhile (p := isBlank) (l := l.cursor.after))
  cases hafter : l.cursor.after.dropWhile isBlank with
  | nil =>
    have hscan := h.scan_of_blank hafter
    have heof : l.pull.token.kind = .eof := by simp [pull, hscan, Token.endAt]
    rw [drain_of_eof heof]
    rw [hafter, List.append_nil] at hsplit
    rw [hsplit] at hblanks
    have hdone := @Stream.done l.cursor.before.reverse _ hblanks
    simpa [Pull.outcome, pull, hscan] using hdone
  | cons x text =>
    obtain ⟨htoken, hproblem, hlocated, hbefore, hrest⟩ := h.scan_of_cons hafter
    have hshape := Piece.cut_shape x text
    have hne : l.pull.token.kind ≠ .eof := by
      simpa [pull, htoken, Piece.tokenAt] using hshape.kind_ne_eof
    have hx : isBlank x = false :=
      head?_dropWhile_eq_false isBlank l.cursor.after x (by rw [hafter]; rfl)
    have ih := stream_drain l.pull.lexer hlocated
    rw [drain_of_ne_eof hne, List.map_cons, ← hsplit, hafter]
    have hpull : l.pull.outcome = ((Piece.cut x text).tokenAt (l.cursor.before.reverse ++
        l.cursor.after.takeWhile isBlank), (Piece.cut x text).problemAt (l.cursor.before.reverse ++
        l.cursor.after.takeWhile isBlank)) := by
      rw [← htoken, ← hproblem]
      rfl
    rw [hpull]
    refine .piece hblanks hx hshape ?_
    rw [← hbefore, ← hrest]
    exact ih
termination_by l.cursor.after.length
decreasing_by exact Cursor.length_after_scan l.cursor hne

/-- What is handed out for a whole text. -/
def stream (text : String) : List (Token × Option Problem) :=
  (Lexer.ofString text).drain.map Pull.outcome

theorem stream_spec (text : String) : Stream [] text.toList (stream text) :=
  (Lexer.ofString text).stream_drain (Cursor.located_ofList _)

/-! ## Three ways to use a lexer up -/

namespace Lexer

/-- One step of an iteration: the pull, and then what is left. -/
theorem remaining_eq_cons {l : Lexer} (h : l.finished = false) :
    l.remaining = l.pull :: l.pull.lexer.remaining := by
  by_cases he : l.pull.token.kind = .eof
  · have hfinished : l.pull.lexer.finished = true := by
      simpa [pull, Token.isEof] using Or.inr he
    simp [remaining, h, hfinished, drain_of_eof he]
  · have hfinished : l.pull.lexer.finished = false := by
      simpa [pull, Token.isEof, h] using he
    simp [remaining, h, hfinished, drain_of_ne_eof he]

theorem finished_of_next_eq_none {l : Lexer} (h : l.next = none) : l.finished = true := by
  simpa [next] using h

theorem pull_of_next_eq_some {l : Lexer} {p : Pull} (h : l.next = some p) :
    l.finished = false ∧ l.pull = p := by
  unfold next at h
  split at h <;> grind

theorem collect_fst (l : Lexer) (h : Option Handler) :
    (l.collect h).1 = l.remaining.map Pull.token := by
  fun_induction collect l h with
  | case1 l h hnext => simp [remaining, finished_of_next_eq_none hnext]
  | case2 l h p hnext tokens h' heq ih =>
    obtain ⟨hfinished, rfl⟩ := pull_of_next_eq_some hnext
    rw [remaining_eq_cons hfinished, List.map_cons]
    simpa [heq] using ih

/-- The handler hears of every problem, in order. -/
theorem collect_snd (l : Lexer) (h : Option Handler) :
    (l.collect h).2 =
      h.map (·.emitAll ((l.remaining.filterMap Pull.problem).map Problem.toWarning)) := by
  fun_induction collect l h with
  | case1 l h hnext => cases h <;> simp [remaining, finished_of_next_eq_none hnext]
  | case2 l h p hnext tokens h' heq ih =>
    obtain ⟨hfinished, rfl⟩ := pull_of_next_eq_some hnext
    rw [heq] at ih
    rw [remaining_eq_cons hfinished]
    cases h with
    | none => simpa using ih
    | some h => cases hproblem : l.pull.problem <;> simpa [Pull.warning?, hproblem] using ih

end Lexer

/-- A strict run takes the results in order, up to the first problem. -/
theorem Lexer.collectStrict_eq_mapM (l : Lexer) :
    l.collectStrict = l.drain.mapM Pull.strictResult := by
  fun_induction collectStrict l with
  | case1 l problem hstrict =>
    by_cases heof : l.pull.token.kind = .eof
    · simp [drain_of_eof heof, hstrict, bind, Except.bind]
    · simp [drain_of_ne_eof heof, hstrict, bind, Except.bind]
  | case2 l token hstrict heof =>
    simp [drain_of_eof heof, hstrict, bind, Except.bind, pure, Except.pure]
  | case3 l token hstrict hne ih =>
    rw [ih, drain_of_ne_eof hne, List.mapM_cons, hstrict]
    cases l.pull.lexer.drain.mapM Pull.strictResult <;> rfl

/-- A check counts all pulls. -/
theorem Lexer.check_eq_foldr (l : Lexer) : l.check = l.drain.foldr CheckReport.cons ⟨0, []⟩ := by
  fun_induction check l with
  | case1 l p heof => rw [drain_of_eof heof, List.foldr_cons, List.foldr_nil]
  | case2 l p hne ih => rw [drain_of_ne_eof hne, List.foldr_cons, ih]

theorem CheckReport.problems_cons (p : Pull) (r : CheckReport) :
    (CheckReport.cons p r).problems = p.problem.toList ++ r.problems := by
  unfold CheckReport.cons Pull.strictResult
  cases p.problem <;> rfl

theorem CheckReport.tokens_cons (p : Pull) (r : CheckReport) :
    (CheckReport.cons p r).tokens = r.tokens + if p.problem.isNone then 1 else 0 := by
  unfold CheckReport.cons Pull.strictResult
  cases p.problem <;> rfl

namespace Lexer

theorem problems_check (l : Lexer) : l.check.problems = l.drain.filterMap Pull.problem := by
  rw [check_eq_foldr]
  induction l.drain with
  | nil => rfl
  | cons p pulls ih =>
    rw [List.foldr_cons, CheckReport.problems_cons, ih]
    cases hp : p.problem <;> simp [hp]

/-- The tokens that are counted are those without a problem. -/
theorem tokens_check (l : Lexer) :
    l.check.tokens = l.drain.countP fun p => p.problem.isNone := by
  rw [check_eq_foldr]
  induction l.drain with
  | nil => rfl
  | cons p pulls ih => rw [List.foldr_cons, CheckReport.tokens_cons, ih, List.countP_cons]

/-- A strict run fails with the first problem, or hands out all tokens if there is none. -/
theorem collectStrict_eq (l : Lexer) :
    l.collectStrict =
      match l.drain.filterMap Pull.problem with
      | [] => .ok (l.drain.map Pull.token)
      | problem :: _ => .error problem := by
  rw [collectStrict_eq_mapM]
  induction l.drain with
  | nil => rfl
  | cons p pulls ih =>
    rw [List.mapM_cons, ih]
    cases hp : p.problem with
    | some problem => simp [Pull.strictResult, hp, bind, Except.bind]
    | none =>
      simp only [Pull.strictResult, hp, List.filterMap_cons]
      cases pulls.filterMap Pull.problem <;> rfl

end Lexer

theorem tokenize_eq (text : String) : tokenize text = (stream text).map Prod.fst := by
  have h := (Lexer.ofString text).collect_fst none
  simpa [tokenize, stream, Lexer.remaining, Lexer.ofString, Pull.outcome, Function.comp_def] using h

theorem tokenizeWith_eq (h : Handler) (text : String) :
    tokenizeWith h text = ((stream text).map Prod.fst,
      h.emitAll (((stream text).filterMap Prod.snd).map Problem.toWarning)) := by
  have hfst := (Lexer.ofString text).collect_fst (some h)
  have hsnd := (Lexer.ofString text).collect_snd (some h)
  simp only [Lexer.remaining, Lexer.ofString] at hfst hsnd
  simp [tokenizeWith, hfst, hsnd, stream, Lexer.ofString, List.filterMap_map, Pull.outcome,
    Function.comp_def]

theorem tokens_check_eq (text : String) :
    (check text).tokens = (stream text).countP fun p => p.2.isNone := by
  simp [check, Lexer.tokens_check, stream, List.countP_map, Pull.outcome, Function.comp_def]

theorem problems_check_eq (text : String) :
    (check text).problems = (stream text).filterMap Prod.snd := by
  simp [check, Lexer.problems_check, stream, List.filterMap_map, Pull.outcome, Function.comp_def]

theorem tokenizeStrict_eq (text : String) :
    tokenizeStrict text =
      match (stream text).filterMap Prod.snd with
      | [] => .ok ((stream text).map Prod.fst)
      | problem :: _ => .error problem := by
  simp [tokenizeStrict, Lexer.collectStrict_eq, stream, List.filterMap_map, Pull.outcome,
    Function.comp_def]

end Lexeme
