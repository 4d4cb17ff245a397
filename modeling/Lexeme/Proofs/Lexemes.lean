import Lexeme.Proofs.Stream

/-!
# Lexemes

The lexeme of a token is the text in its span. Scanning looks beyond the lexeme to find its end, but
all that it sees there is that the lexeme does not go on; so a lexeme that is read alone gives the
same token again, with the same flaw. What a token is depends on its lexeme only.

## Main definitions

* `Pull.lexeme?`: the lexeme of the token that a pull yields.
* `Pull.ReadAlone`: the lexeme of a pull gives the same token and the same flaw when it is all there
  is.

## Main statements

* `Piece.Shape.cut_short`: a piece stays the same when the text ends with it.
* `Piece.Shape.stream_taken`: the stream of the text that a piece takes.
* `lexemes_read_alone`: all lexemes of a text can be read alone.
-/

namespace Lexeme

open Text

/-! ## Pieces -/

namespace Piece.Shape

variable {x : Char} {text : List Char} {piece : Piece}

/-- A piece stays the same when the text ends with it. -/
theorem cut_short (h : piece.Shape x text) :
    ∃ more, piece.taken = x :: more ∧ Shape x more { piece with rest := [] } := by
  cases h with
  | @number _ digits _ hx hdigits =>
    have hshape := @Shape.number x digits [] hx hdigits (by simp)
    rw [List.append_nil] at hshape
    exact ⟨digits, rfl, hshape⟩
  | @closed inner _ hinner => exact ⟨inner ++ ['"'], rfl, .closed hinner⟩
  | unclosed htext => exact ⟨text, rfl, .unclosed htext⟩
  | equal hx => exact ⟨['='], rfl, .equal hx⟩
  | alone hx => exact ⟨[], rfl, .alone hx (by simp)⟩
  | double hx => exact ⟨[x], rfl, .double hx⟩
  | half hx => exact ⟨[], rfl, .half hx (by simp)⟩
  | single hx => exact ⟨[], rfl, .single hx⟩
  | @word _ more _ hx hmore =>
    have hshape := @Shape.word x more [] hx hmore (by simp)
    rw [List.append_nil] at hshape
    exact ⟨more, rfl, hshape⟩
  | stray hx hdigit hstart => exact ⟨[], rfl, .stray hx hdigit hstart⟩

/-- The text that a piece takes gives the same token, at the start, and then the end token. -/
theorem stream_taken (h : piece.Shape x text) (hx : isBlank x = false) :
    stream (String.ofList piece.taken) =
      [(piece.tokenAt [], piece.problemAt []), (.endAt piece.taken, none)] := by
  obtain ⟨more, htaken, hshape⟩ := h.cut_short
  have hstream := @Stream.piece [] [] more x _ _ (by simp) hx hshape (.done (by simp))
  have hspec := stream_spec (String.ofList piece.taken)
  simp only [List.nil_append, List.append_nil, ← htaken] at hstream
  rw [String.toList_ofList] at hspec
  exact hspec.unique hstream

end Piece.Shape

/-! ## Tokens -/

/-- The text of the span of a pull. -/
def Pull.lexeme? (p : Pull) (text : String) : Option (List Char) :=
  byteRange p.token.span.start p.token.span.stop text.toList

/-- The lexeme of the pull, read alone, gives its token at the start of the text and then the end
token; read strictly, it fails with the flaw of the pull or, if that has none, gives the same
tokens. -/
structure Pull.ReadAlone (p : Pull) (lexeme : List Char) : Prop where
  tokens : tokenize (String.ofList lexeme) =
    [⟨p.token.kind, p.token.value, ⟨0, p.token.span.stop - p.token.span.start, 1, 1⟩⟩,
      .endAt lexeme]
  strict : tokenizeStrict (String.ofList lexeme) =
    match p.problem with
    | some problem =>
      .error ⟨problem.flaw, ⟨0, p.token.span.stop - p.token.span.start, 1, 1⟩⟩
    | none => .ok (tokenize (String.ofList lexeme))

theorem Piece.Shape.readAlone {x : Char} {text left : List Char} {piece : Piece} {p : Pull}
    (h : piece.Shape x text) (hx : isBlank x = false)
    (hp : p.outcome = (piece.tokenAt left, piece.problemAt left)) : p.ReadAlone piece.taken := by
  obtain ⟨htoken, hproblem⟩ : p.token = piece.tokenAt left ∧ p.problem = piece.problemAt left :=
    Prod.mk.inj hp
  have hstream := h.stream_taken hx
  have hspan : (⟨0, p.token.span.stop - p.token.span.start, 1, 1⟩ : Span) =
      .over [] piece.taken := by
    simp [htoken, tokenAt, Span.over, lastLine]
  refine ⟨?_, ?_⟩
  · rw [hspan, tokenize_eq, hstream, htoken]
    rfl
  · rw [hspan, tokenizeStrict_eq, tokenize_eq, hstream, hproblem]
    cases hflaw : piece.flaw <;> simp [problemAt, hflaw]

/-- Each pull but the last has a lexeme, which can be read alone. -/
theorem Lexer.exists_readAlone {text : String} {p : Pull} (hp : p ∈ (Lexer.ofString text).drain)
    (hkind : p.token.kind ≠ .eof) :
    ∃ lexeme, p.lexeme? text = some lexeme ∧ p.ReadAlone lexeme := by
  obtain hend | ⟨left, x, rest, piece, hx, hshape, htext, houtcome⟩ :=
    (stream_spec text).mem_cases p.outcome (List.mem_map_of_mem hp)
  · have htoken : p.token = .endAt text.toList := congrArg Prod.fst hend
    rw [htoken] at hkind
    exact absurd rfl hkind
  · have htoken : p.token = piece.tokenAt left := congrArg Prod.fst houtcome
    have hrange := byteRange_append left piece.taken piece.rest
    rw [← htext] at hrange
    refine ⟨piece.taken, ?_, hshape.readAlone hx houtcome⟩
    rw [Pull.lexeme?, htoken]
    exact hrange

/-- Pulls that have one lexeme have one kind, one value and one flaw. -/
theorem Pull.ReadAlone.unique {p p' : Pull} {lexeme : List Char} (h : p.ReadAlone lexeme)
    (h' : p'.ReadAlone lexeme) : p.token.kind = p'.token.kind ∧ p.token.value = p'.token.value ∧
      p.problem.map Problem.flaw = p'.problem.map Problem.flaw := by
  have htokens := h.tokens.symm.trans h'.tokens
  have hstrict := h.strict.symm.trans h'.strict
  simp only [List.cons.injEq, Token.mk.injEq] at htokens
  refine ⟨htokens.1.1, htokens.1.2.1, ?_⟩
  cases hp : p.problem <;> cases hp' : p'.problem <;> simp_all

/-- All lexemes of a text can be read alone. The lexemes are those of the pulls that hand out the
tokens of the text; and whichever texts two tokens come from, they are of one kind, and good or
flawed alike, if they have one lexeme. -/
theorem lexemes_read_alone (text : String) :
    tokenize text = (Lexer.ofString text).drain.map Pull.token ∧
      (∀ p ∈ (Lexer.ofString text).drain, p.token.kind ≠ .eof →
        ∃ lexeme, p.lexeme? text = some lexeme ∧ p.ReadAlone lexeme) ∧
      ∀ text' : String, ∀ p ∈ (Lexer.ofString text).drain, ∀ p' ∈ (Lexer.ofString text').drain,
        p.token.kind ≠ .eof → p'.token.kind ≠ .eof → p.lexeme? text = p'.lexeme? text' →
          p.token.kind = p'.token.kind ∧ p.token.value = p'.token.value ∧
            p.problem.map Problem.flaw = p'.problem.map Problem.flaw := by
  refine ⟨?tokens, fun p hp hkind => Lexer.exists_readAlone hp hkind, ?context⟩
  case tokens =>
    rw [tokenize_eq, stream, List.map_map]
    rfl
  case context =>
    intro text' p hp p' hp' hkind hkind' hlexeme
    obtain ⟨lexeme, hrange, hread⟩ := Lexer.exists_readAlone hp hkind
    obtain ⟨lexeme', hrange', hread'⟩ := Lexer.exists_readAlone hp' hkind'
    rw [hrange, hrange', Option.some.injEq] at hlexeme
    subst hlexeme
    exact hread.unique hread'

end Lexeme
