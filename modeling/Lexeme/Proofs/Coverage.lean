import Lexeme.Proofs.Stream

/-!
# Coverage

The tokens of a text cover it without loss: their spans are stretches of the text in order, only
blanks stand between them, and gaps and spans together give the text back. What a token says is
what stands in its span.

## Main definitions

* `IsBoundary`: an offset between two characters.
* `gaps`, `stretches`: the offsets between tokens, and those of gaps and tokens in order.
* `Token.ReadFrom`: the value of a token against the text it was read from.
* `Coverage`: all of this for the tokens of a text.

## Main statements

* `Stream.exists_place`: each token of a stream has its place in the text.
* `tokenize_coverage`: the tokens of a text cover it.
-/

namespace Lexeme

open Text

/-- The offset lies between two characters of the text, or at one of its ends. -/
def IsBoundary (text : List Char) (offset : Nat) : Prop :=
  ∃ before after, text = before ++ after ∧ byteSize before = offset

/-- The stretches before each token, the first one from `offset` on. -/
def gaps (offset : Nat) : List Token → List (Nat × Nat)
  | [] => []
  | t :: ts => (offset, t.span.start) :: gaps t.span.stop ts

/-- The stretches before each token and of each token, in order. -/
def stretches (offset : Nat) : List Token → List (Nat × Nat)
  | [] => []
  | t :: ts => (offset, t.span.start) :: (t.span.start, t.span.stop) :: stretches t.span.stop ts

/-- The value of the token is its lexeme; for a string literal, the lexeme without its opening quote
and without its closing quote, if it has one. -/
def Token.ReadFrom (t : Token) (lexeme : List Char) : Prop :=
  if t.kind = .stringLiteral then
    '"' ∉ t.value.toList ∧
      (lexeme = '"' :: (t.value.toList ++ ['"']) ∨ lexeme = '"' :: t.value.toList)
  else t.value.toList = lexeme

/-- The tokens cover the text without loss. -/
structure Coverage (text : List Char) (tokens : List Token) : Prop where
  /-- The end token comes last and nowhere else, and is empty at the end of the text. -/
  ends : ∃ body last, tokens = body ++ [last] ∧ (∀ t ∈ body, t.kind ≠ .eof) ∧
    last.kind = .eof ∧ last.value = "" ∧ last.span.start = byteSize text ∧
    last.span.stop = byteSize text
  /-- Spans lie in the text and cut no character. -/
  bounds : ∀ t ∈ tokens, t.span.start ≤ t.span.stop ∧ t.span.stop ≤ byteSize text ∧
    IsBoundary text t.span.start ∧ IsBoundary text t.span.stop
  nonempty : ∀ t ∈ tokens, t.kind ≠ .eof → t.span.start < t.span.stop
  ordered : tokens.Pairwise fun t t' => t.span.stop ≤ t'.span.start
  gaps_blank : ∀ gap ∈ gaps 0 tokens, ∃ cs, byteRange gap.1 gap.2 text = some cs ∧
    ∀ c ∈ cs, isBlank c = true
  /-- Gaps and spans in order give the text back. -/
  lossless : ∃ parts, (stretches 0 tokens).mapM (fun s => byteRange s.1 s.2 text) = some parts ∧
    parts.flatten = text
  values : ∀ t ∈ tokens, ∃ lexeme, byteRange t.span.start t.span.stop text = some lexeme ∧
    t.ReadFrom lexeme
  /-- Each token but the end token takes a character that is no blank. -/
  length_le : tokens.length ≤ 1 + text.countP fun c => !isBlank c

/-! ## Pieces -/

namespace Piece.Shape

variable {x : Char} {text : List Char} {piece : Piece}

theorem readFrom (h : piece.Shape x text) (before : List Char) :
    (piece.tokenAt before).ReadFrom piece.taken := by
  cases h with
  | closed hinner => simpa [Token.ReadFrom, tokenAt] using hinner
  | unclosed htext => simpa [Token.ReadFrom, tokenAt] using htext
  | single hx =>
    obtain ⟨o, rfl⟩ | ⟨d, rfl⟩ := kind_of_single hx <;> simp [Token.ReadFrom, tokenAt, plain]
  | @word _ more =>
    obtain ⟨k, hk⟩ | hk := wordKind_cases (x :: more) <;>
      simp [Token.ReadFrom, tokenAt, plain, hk]
  | _ => simp [Token.ReadFrom, tokenAt, plain, Piece.stray]

end Piece.Shape

/-! ## Streams -/

namespace Stream

variable {before text : List Char} {pulls : List (Token × Option Problem)}

/-- Each token of a stream has its place: its span is that of some lexeme in the text, its value is
read from it, and only the lexeme of the end token is empty. -/
theorem exists_place (h : Stream before text pulls) : ∀ p ∈ pulls, ∃ left lexeme right,
    before ++ text = left ++ lexeme ++ right ∧ p.1.span = .over left lexeme ∧
      p.1.ReadFrom lexeme ∧ (p.1.kind ≠ .eof → lexeme ≠ []) := by
  intro p hp
  obtain rfl | ⟨left, x, rest, piece, hx, hshape, htext, rfl⟩ := h.mem_cases p hp
  · exact ⟨before ++ text, [], [], by simp, rfl, rfl, fun h => absurd rfl h⟩
  · exact ⟨left, piece.taken, piece.rest, htext, rfl, hshape.readFrom _,
      fun _ => List.ne_nil_of_mem hshape.mem_taken⟩

/-- The stream ends with the end token, behind all of the text, and has no other. -/
theorem ends (h : Stream before text pulls) : ∃ body last, pulls = body ++ [last] ∧
    (∀ p ∈ body, p.1.kind ≠ .eof) ∧ last.1 = .endAt (before ++ text) := by
  induction h with
  | done => exact ⟨[], _, rfl, by simp, rfl⟩
  | piece hblanks hx hshape _ ih =>
    obtain ⟨body, last, rfl, hbody, hlast⟩ := ih
    refine ⟨_ :: body, last, rfl, ?_, by rw [hshape.append_text, hlast]⟩
    exact List.forall_mem_cons.mpr ⟨hshape.kind_ne_eof, hbody⟩

theorem length_le (h : Stream before text pulls) :
    pulls.length ≤ 1 + text.countP fun c => !isBlank c := by
  induction h with
  | done => simp
  | @piece before blanks text x piece pulls hblanks hx hshape _ ih =>
    have hpos : 0 < piece.taken.countP fun c => !isBlank c :=
      List.countP_pos_iff.mpr ⟨x, hshape.mem_taken, by simp [hx]⟩
    rw [hshape.text_eq]
    simp only [List.length_cons, List.countP_append]
    omega

/-- Only blanks stand in the gaps. -/
theorem gaps_blank (h : Stream before text pulls) :
    ∀ gap ∈ gaps (byteSize before) (pulls.map Prod.fst), ∃ cs,
      byteRange gap.1 gap.2 (before ++ text) = some cs ∧ ∀ c ∈ cs, isBlank c = true := by
  induction h with
  | @done before blanks hblanks =>
    have hrange := byteRange_append before blanks []
    simp only [List.append_nil] at hrange
    simp only [List.map_cons, List.map_nil, gaps, Token.endAt, Span.over, byteSize_append,
      List.mem_singleton, forall_eq]
    exact ⟨blanks, hrange, hblanks⟩
  | @piece before blanks text x piece pulls hblanks hx hshape _ ih =>
    have hrange := byteRange_append before blanks (piece.taken ++ piece.rest)
    rw [hshape.append_text]
    simp only [byteSize_append] at ih
    simp only [List.map_cons, gaps, Piece.tokenAt, Span.over, byteSize_append,
      List.forall_mem_cons]
    exact ⟨⟨blanks, by simpa using hrange, hblanks⟩, ih⟩

/-- Gaps and spans give the text back. -/
theorem lossless (h : Stream before text pulls) : ∃ parts,
    (stretches (byteSize before) (pulls.map Prod.fst)).mapM
      (fun s => byteRange s.1 s.2 (before ++ text)) = some parts ∧ parts.flatten = text := by
  induction h with
  | @done before blanks hblanks =>
    have hgap := byteRange_append before blanks []
    have hend := byteRange_append (before ++ blanks) [] []
    refine ⟨[blanks, []], ?_, by simp⟩
    simp only [List.append_nil, byteSize_append, byteSize_nil, Nat.add_zero] at hgap hend
    simp [stretches, Token.endAt, Span.over, hgap, hend]
  | @piece before blanks text x piece pulls hblanks hx hshape _ ih =>
    obtain ⟨parts, hparts, hflatten⟩ := ih
    have hgap := byteRange_append before blanks (piece.taken ++ piece.rest)
    have hlexeme := byteRange_append (before ++ blanks) piece.taken piece.rest
    refine ⟨blanks :: piece.taken :: parts, ?_, by simp [hflatten, hshape.text_eq]⟩
    rw [hshape.append_text]
    simp only [byteSize_append] at hgap hlexeme hparts
    simp only [List.append_assoc] at hgap hlexeme hparts
    simp [stretches, Piece.tokenAt, Span.over, hgap, hlexeme, hparts]

end Stream

/-- The tokens of a text cover it. -/
theorem tokenize_coverage (text : String) : Coverage text.toList (tokenize text) := by
  have h := stream_spec text
  rw [tokenize_eq]
  have hplace : ∀ t ∈ (stream text).map Prod.fst, ∃ left lexeme right,
      text.toList = left ++ lexeme ++ right ∧ t.span = .over left lexeme ∧ t.ReadFrom lexeme ∧
        (t.kind ≠ .eof → lexeme ≠ []) := by
    simpa [List.forall_mem_map] using h.exists_place
  refine ⟨?ends, ?bounds, ?nonempty, ?ordered, ?gaps, ?lossless, ?values, ?count⟩
  case ends =>
    obtain ⟨body, last, heq, hbody, hlast⟩ := h.ends
    refine ⟨body.map Prod.fst, last.1, by simp [heq], ?_, ?_⟩
    · simpa [List.forall_mem_map] using hbody
    · simp [hlast, Token.endAt, Span.over]
  case bounds =>
    intro t ht
    obtain ⟨left, lexeme, right, htext, hspan, -, -⟩ := hplace t ht
    rw [hspan, htext]
    refine ⟨by simp [Span.over], by simp [Span.over], ?_, ?_⟩
    · exact ⟨left, lexeme ++ right, by simp, rfl⟩
    · exact ⟨left ++ lexeme, right, rfl, by simp [Span.over]⟩
  case nonempty =>
    intro t ht hkind
    obtain ⟨left, lexeme, right, -, hspan, -, hne⟩ := hplace t ht
    have := byteSize_pos (hne hkind)
    rw [hspan]
    simpa [Span.over] using this
  case ordered => exact List.pairwise_map.mpr (h.precedes.imp Span.Precedes.stop_le_start)
  case gaps => exact h.gaps_blank
  case lossless => exact h.lossless
  case values =>
    intro t ht
    obtain ⟨left, lexeme, right, htext, hspan, hread, -⟩ := hplace t ht
    rw [hspan, htext]
    exact ⟨lexeme, byteRange_append left lexeme right, hread⟩
  case count => simpa using h.length_le

end Lexeme
