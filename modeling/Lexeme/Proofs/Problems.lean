import Lexeme.Proofs.Stream

/-!
# The problems of a text

The problems of a text can be told without cutting it into tokens. A character is unexpected if an
even number of quotes stands before it and it belongs nowhere, or if it is the last of an odd run of
half operators. A string literal is unterminated if the number of quotes is odd, and then it starts
with the last one.

The tokens decide the same things one by one. The link is what holds wherever a token starts: the
quotes before it are paired, and so are the half operators, if another one comes next.

## Main definitions

* `Unexpected`: whether a character is a problem, from the text before and after it.
* `lexicalErrors`: the problems of a text, by a scan of its characters.
* `Paired`: what holds wherever a token starts.

## Main statements

* `Paired.append_harmless`, `Paired.append_double`, `Paired.append_string`,
  `Paired.append_unexpected`: what the characters of one token do.
* `Piece.Shape.paired`: from one place where a token starts to the next.
* `check_problems_eq_lexicalErrors`: checking reports exactly these problems.
-/

namespace Lexeme

open Text

/-! ## Problems by characters -/

/-- The length of the run of `c` that the text ends with. -/
def endRun (c : Char) (text : List Char) : Nat := (text.reverse.takeWhile (· == c)).length

/-- The characters that are operators only if they are doubled. -/
def halves : List Char := ['&', '|']

/-- Whether the character `c` is a problem where it stands. -/
def Unexpected (before : List Char) (c : Char) (after : List Char) : Prop :=
  before.count '"' % 2 = 0 ∧ c ≠ '"' ∧
    ((isBlank c = false ∧ isDigit c = false ∧ isIdentStart c = false ∧ c ∉ punctuation) ∨
      (c ∈ halves ∧ after.head? ≠ some c ∧ endRun c (before ++ [c]) % 2 = 1))

instance (before : List Char) (c : Char) (after : List Char) :
    Decidable (Unexpected before c after) :=
  inferInstanceAs (Decidable (_ ∧ _ ∧ _))

/-- The unexpected characters of a text that stands behind `before`. -/
def unexpectedFrom (before : List Char) : List Char → List Problem
  | [] => []
  | c :: after =>
    if Unexpected before c after then
      ⟨.unexpectedCharacter c, .over before [c]⟩ :: unexpectedFrom (before ++ [c]) after
    else unexpectedFrom (before ++ [c]) after

/-- What stands before the last quote, and what stands after it. -/
def splitLastQuote (text : List Char) : List Char × List Char :=
  ((text.reverse.dropWhile (· != '"')).tail.reverse, (text.reverse.takeWhile (· != '"')).reverse)

/-- With an odd number of quotes, the string literal that starts with the last one. -/
def unterminated (text : List Char) : List Problem :=
  if text.count '"' % 2 = 1 then
    let (before, inner) := splitLastQuote text
    [⟨.unterminatedString, .over before ('"' :: inner)⟩]
  else []

/-- The problems of a text, in order. -/
def lexicalErrors (text : List Char) : List Problem := unexpectedFrom [] text ++ unterminated text

/-! ## Runs and quotes -/

@[simp]
theorem endRun_append_self (c : Char) (text : List Char) :
    endRun c (text ++ [c]) = endRun c text + 1 := by
  simp [endRun]

theorem endRun_append_of_ne {c d : Char} (h : d ≠ c) (text : List Char) :
    endRun c (text ++ [d]) = 0 := by
  simp [endRun, h]

theorem count_quote_append_of_ne {c : Char} (h : c ≠ '"') (text : List Char) :
    (text ++ [c]).count '"' = text.count '"' := by
  simp [List.count_append, h]

theorem count_quote_append_quote (text : List Char) :
    (text ++ ['"']).count '"' = text.count '"' + 1 := by
  simp [List.count_append]

theorem splitLastQuote_append {inner : List Char} (h : '"' ∉ inner) (before : List Char) :
    splitLastQuote (before ++ '"' :: inner) = (before, inner) := by
  have hinner : ∀ c ∈ inner.reverse, (c != '"') = true := by
    intro c hc
    simpa using ne_of_mem_of_not_mem (List.mem_reverse.mp hc) h
  have hreverse : (before ++ '"' :: inner).reverse = inner.reverse ++ '"' :: before.reverse := by
    simp
  simp [splitLastQuote, hreverse, List.dropWhile_append_of_pos hinner,
    List.takeWhile_append_of_pos hinner]

/-! ## Half operators -/

theorem mem_punctuation_of_mem_halves {c : Char} (h : c ∈ halves) : c ∈ punctuation := by
  simp only [halves, List.mem_cons, List.not_mem_nil, or_false] at h
  rcases h with rfl | rfl <;> decide

theorem ne_quote_of_mem_halves {c : Char} (h : c ∈ halves) : c ≠ '"' := by
  rintro rfl
  exact absurd h (by decide)

theorem mem_halves_of_doubled {c : Char} {o : Operator} (h : Piece.doubled c = some o) :
    c ∈ halves := by
  unfold Piece.doubled at h
  split at h <;> simp_all [halves]

/-- Between paired quotes, half an operator is unexpected if the other half does not follow and the
run before it is paired. -/
theorem unexpected_half_iff {before after : List Char} {c : Char} (hc : c ∈ halves)
    (hquotes : before.count '"' % 2 = 0) :
    Unexpected before c after ↔ after.head? ≠ some c ∧ endRun c before % 2 = 0 := by
  have hpunct := mem_punctuation_of_mem_halves hc
  have hquote := ne_quote_of_mem_halves hc
  have hparity : (endRun c before + 1) % 2 = 1 ↔ endRun c before % 2 = 0 := by omega
  simp [Unexpected, hquotes, hquote, hpunct, hc, hparity]

/-! ## Where tokens start -/

/-- Quotes are paired before `text`, and so are half operators if `text` goes on with one. -/
structure Paired (before text : List Char) : Prop where
  quotes : before.count '"' % 2 = 0
  runs : ∀ c ∈ halves, text.head? = some c → endRun c before % 2 = 0

/-- A character that is neither a quote nor a half operator, and starts or continues some token. -/
def Harmless (c : Char) : Prop :=
  c ≠ '"' ∧ c ∉ halves ∧
    (isBlank c = true ∨ isDigit c = true ∨ isIdentStart c = true ∨ c ∈ punctuation)

theorem not_unexpected_of_harmless {c : Char} (h : Harmless c) (before after : List Char) :
    ¬ Unexpected before c after := by
  obtain ⟨-, hhalf, hclass⟩ := h
  rintro ⟨-, -, ⟨hblank, hdigit, hstart, hpunct⟩ | ⟨hhalf', -⟩⟩
  · rcases hclass with h | h | h | h
    · simp [h] at hblank
    · simp [h] at hdigit
    · simp [h] at hstart
    · exact hpunct h
  · exact hhalf hhalf'

/-- A quote is never unexpected. -/
theorem unexpectedFrom_quote (before text : List Char) :
    unexpectedFrom before ('"' :: text) = unexpectedFrom (before ++ ['"']) text := by
  have hnot : ¬ Unexpected before '"' text := fun h => h.2.1 rfl
  simp [unexpectedFrom, hnot]

/-- Inside a string literal nothing is unexpected. -/
theorem unexpectedFrom_of_odd {before xs : List Char} (h : before.count '"' % 2 = 1)
    (hxs : '"' ∉ xs) (ys : List Char) :
    unexpectedFrom before (xs ++ ys) = unexpectedFrom (before ++ xs) ys := by
  induction xs generalizing before with
  | nil => simp
  | cons c xs ih =>
    obtain ⟨hc, hxs⟩ := List.ne_and_not_mem_of_not_mem_cons hxs
    have hodd : (before ++ [c]).count '"' % 2 = 1 := by
      rwa [count_quote_append_of_ne hc.symm]
    have hnot : ¬ Unexpected before c (xs ++ ys) := by
      rintro ⟨heven, -⟩
      omega
    simpa [unexpectedFrom, hnot] using ih hodd hxs

namespace Paired

variable {before text : List Char}

/-- No run of half operators ends with another character. -/
theorem of_append_singleton {d : Char} (hd : d ∉ halves)
    (h : (before ++ [d]).count '"' % 2 = 0) : Paired (before ++ [d]) text := by
  refine ⟨h, ?_⟩
  intro c hc _
  rw [endRun_append_of_ne (ne_of_mem_of_not_mem hc hd).symm]

/-- Harmless characters are passed over. -/
theorem append_harmless {xs : List Char} (h : Paired before (xs ++ text))
    (hxs : ∀ c ∈ xs, Harmless c) : Paired (before ++ xs) text ∧
      unexpectedFrom before (xs ++ text) = unexpectedFrom (before ++ xs) text := by
  induction xs generalizing before with
  | nil => simpa using h
  | cons c xs ih =>
    obtain ⟨hc, hxs⟩ := List.forall_mem_cons.mp hxs
    have hpaired : Paired (before ++ [c]) (xs ++ text) := by
      refine of_append_singleton hc.2.1 ?_
      rw [count_quote_append_of_ne hc.1, h.quotes]
    have hnot := not_unexpected_of_harmless hc before (xs ++ text)
    simpa [unexpectedFrom, hnot] using ih hpaired hxs

/-- The two halves of an operator are passed over: the run before them is paired, hence the first
half ends an odd run but has the other one behind it, and the second half ends an even one. -/
theorem append_double {x : Char} (h : Paired before (x :: x :: text)) (hx : x ∈ halves) :
    Paired (before ++ [x, x]) text ∧
      unexpectedFrom before (x :: x :: text) = unexpectedFrom (before ++ [x, x]) text := by
  have hrun := h.runs x hx rfl
  have hquote := ne_quote_of_mem_halves hx
  have hquotes : (before ++ [x]).count '"' % 2 = 0 := by
    rw [count_quote_append_of_ne hquote, h.quotes]
  have hfirst : ¬ Unexpected before x (x :: text) := by
    simp [unexpected_half_iff hx h.quotes]
  have hsecond : ¬ Unexpected (before ++ [x]) x text := by
    simp only [unexpected_half_iff hx hquotes, endRun_append_self]
    omega
  have htaken : before ++ [x, x] = before ++ [x] ++ [x] := by simp
  rw [htaken]
  refine ⟨⟨?_, ?_⟩, by simp [unexpectedFrom, hfirst, hsecond]⟩
  · rw [count_quote_append_of_ne hquote, hquotes]
  · intro c _ _
    by_cases hcx : c = x
    · subst hcx
      simp only [endRun_append_self]
      omega
    · rw [endRun_append_of_ne (Ne.symm hcx)]

/-- A string literal is passed over from its opening quote to its closing one. -/
theorem append_string {inner : List Char} (h : Paired before ('"' :: (inner ++ '"' :: text)))
    (hinner : '"' ∉ inner) : Paired (before ++ '"' :: (inner ++ ['"'])) text ∧
      unexpectedFrom before ('"' :: (inner ++ '"' :: text)) =
        unexpectedFrom (before ++ '"' :: (inner ++ ['"'])) text := by
  have hquotes := h.quotes
  have hodd : (before ++ ['"']).count '"' % 2 = 1 := by
    rw [count_quote_append_quote]
    omega
  have hcount : (before ++ ['"'] ++ inner).count '"' = (before ++ ['"']).count '"' := by
    rw [List.count_append, List.count_eq_zero.mpr hinner, Nat.add_zero]
  have heven : (before ++ ['"'] ++ inner ++ ['"']).count '"' % 2 = 0 := by
    rw [count_quote_append_quote, hcount]
    omega
  have htaken : before ++ '"' :: (inner ++ ['"']) = before ++ ['"'] ++ inner ++ ['"'] := by simp
  rw [htaken]
  refine ⟨of_append_singleton (by decide) heven, ?_⟩
  rw [unexpectedFrom_quote, unexpectedFrom_of_odd hodd hinner, unexpectedFrom_quote]

/-- An unexpected character is reported. Another token starts behind it, since half an operator is
unexpected only where its run ends. -/
theorem append_unexpected {c : Char} (h : Paired before (c :: text))
    (hc : Unexpected before c text) : Paired (before ++ [c]) text ∧
      unexpectedFrom before (c :: text) =
        ⟨.unexpectedCharacter c, .over before [c]⟩ :: unexpectedFrom (before ++ [c]) text := by
  refine ⟨⟨?_, ?_⟩, by simp [unexpectedFrom, hc]⟩
  · rw [count_quote_append_of_ne hc.2.1, h.quotes]
  · intro d hd hhead
    have hne : c ≠ d := by
      rintro rfl
      exact ((unexpected_half_iff hd h.quotes).mp hc).1 hhead
    rw [endRun_append_of_ne hne]

end Paired

/-! ## Harmless characters -/

theorem harmless_of_class {c : Char} (hpunct : c ∉ punctuation)
    (h : isBlank c = true ∨ isDigit c = true ∨ isIdentStart c = true) : Harmless c := by
  refine ⟨ne_quote_of_not_mem_punctuation hpunct, ?_, ?_⟩
  · intro hc
    exact hpunct (mem_punctuation_of_mem_halves hc)
  · rcases h with h | h | h <;> simp [h]

theorem harmless_of_isBlank {c : Char} (h : isBlank c = true) : Harmless c :=
  harmless_of_class (not_mem_punctuation_of_isBlank h) (.inl h)

theorem harmless_of_isIdentContinue {c : Char} (h : isIdentContinue c = true) : Harmless c := by
  refine harmless_of_class ?_ (.inr ?_)
  · intro hpunct
    simp [isIdentContinue_of_mem_punctuation hpunct] at h
  · simpa [isIdentContinue, or_comm] using h

theorem harmless_of_isDigit {c : Char} (h : isDigit c = true) : Harmless c :=
  harmless_of_isIdentContinue (by simp [isIdentContinue, h])

theorem harmless_of_isIdentStart {c : Char} (h : isIdentStart c = true) : Harmless c :=
  harmless_of_isIdentContinue (by simp [isIdentContinue, h])

theorem harmless_of_equalsPair {c : Char} {pair : Operator × Operator}
    (h : Piece.equalsPair c = some pair) : Harmless c := by
  have hpunct := Piece.mem_punctuation_of_equalsPair h
  unfold Piece.equalsPair at h
  split at h <;> simp_all [Harmless, halves]

theorem harmless_of_single {c : Char} {kind : Kind} (h : Piece.single c = some kind) :
    Harmless c := by
  have hpunct := Piece.mem_punctuation_of_single h
  unfold Piece.single at h
  split at h <;> simp_all [Harmless, halves]

/-! ## What a piece does -/

namespace Piece.Shape

variable {x : Char} {text before : List Char} {piece : Piece}

/-- A piece that is no open string literal is followed by another place where a token starts, and
the characters it takes are unexpected just if it has a flaw. -/
theorem paired (h : piece.Shape x text) (hx : isBlank x = false)
    (hbefore : Paired before (x :: text)) (hflaw : piece.flaw ≠ some .unterminatedString) :
    Paired (before ++ piece.taken) piece.rest ∧
      unexpectedFrom before (x :: text) =
        (piece.problemAt before).toList ++ unexpectedFrom (before ++ piece.taken) piece.rest := by
  cases h with
  | @number _ digits rest hdigit hdigits =>
    have htaken : ∀ c ∈ x :: digits, Harmless c := List.forall_mem_cons.mpr
      ⟨harmless_of_isDigit hdigit, fun c hc => harmless_of_isDigit (hdigits c hc)⟩
    exact hbefore.append_harmless htaken
  | closed hinner => exact hbefore.append_string hinner
  | unclosed => exact absurd rfl hflaw
  | equal hpair =>
    have htaken : ∀ c ∈ [x, '='], Harmless c := by
      have hequals : Harmless '=' := harmless_of_equalsPair rfl
      simp [harmless_of_equalsPair hpair, hequals]
    exact hbefore.append_harmless htaken
  | alone hpair =>
    have htaken : ∀ c ∈ [x], Harmless c := by simp [harmless_of_equalsPair hpair]
    exact hbefore.append_harmless htaken
  | double hdoubled => exact hbefore.append_double (mem_halves_of_doubled hdoubled)
  | half hdoubled htext =>
    have hhalf := mem_halves_of_doubled hdoubled
    exact hbefore.append_unexpected
      ((unexpected_half_iff hhalf hbefore.quotes).mpr ⟨htext, hbefore.runs x hhalf rfl⟩)
  | single hsingle =>
    have htaken : ∀ c ∈ [x], Harmless c := by simp [harmless_of_single hsingle]
    exact hbefore.append_harmless htaken
  | @word _ more rest hstart hmore =>
    have htaken : ∀ c ∈ x :: more, Harmless c := List.forall_mem_cons.mpr
      ⟨harmless_of_isIdentStart hstart, fun c hc => harmless_of_isIdentContinue (hmore c hc)⟩
    exact hbefore.append_harmless htaken
  | stray hpunct hdigit hstart =>
    exact hbefore.append_unexpected ⟨hbefore.quotes, ne_quote_of_not_mem_punctuation hpunct,
      .inl ⟨hx, hdigit, hstart, hpunct⟩⟩

/-- Only a quote without another one after it opens a string literal that is not closed. -/
theorem eq_of_unterminated (h : piece.Shape x text)
    (hflaw : piece.flaw = some .unterminatedString) : x = '"' ∧ '"' ∉ text ∧
      piece = ⟨.stringLiteral, text, '"' :: text, [], some .unterminatedString⟩ := by
  cases h with
  | unclosed htext => exact ⟨rfl, htext, rfl⟩
  | _ => simp [plain, Piece.stray] at hflaw

end Piece.Shape

/-! ## Whole streams -/

theorem unterminated_of_even {text : List Char} (h : text.count '"' % 2 = 0) :
    unterminated text = [] := by
  simp [unterminated, h]

/-- An open string literal is the one problem of the text from its quote on. -/
theorem problems_unclosed {before inner : List Char} (hquotes : before.count '"' % 2 = 0)
    (hinner : '"' ∉ inner) :
    unexpectedFrom before ('"' :: inner) ++ unterminated (before ++ '"' :: inner) =
      [⟨.unterminatedString, .over before ('"' :: inner)⟩] := by
  have hodd : (before ++ ['"']).count '"' % 2 = 1 := by
    rw [count_quote_append_quote]
    omega
  have hunexpected := unexpectedFrom_of_odd hodd hinner []
  have htotal : (before ++ '"' :: inner).count '"' % 2 = 1 := by
    simp only [List.count_append, List.count_cons_self, List.count_eq_zero.mpr hinner]
    omega
  rw [List.append_nil] at hunexpected
  rw [unexpectedFrom_quote, hunexpected, unexpectedFrom, unterminated, if_pos htotal,
    splitLastQuote_append hinner, List.nil_append]

/-- From a place where a token starts, the stream has exactly the problems of the characters. -/
theorem Stream.problems {before text : List Char} {pulls : List (Token × Option Problem)}
    (h : Stream before text pulls) (hpaired : Paired before text) :
    pulls.filterMap Prod.snd = unexpectedFrom before text ++ unterminated (before ++ text) := by
  induction h with
  | @done before blanks hblanks =>
    have hharmless : ∀ c ∈ blanks, Harmless c := fun c hc => harmless_of_isBlank (hblanks c hc)
    rw [← List.append_nil blanks] at hpaired
    obtain ⟨hend, hunexpected⟩ := hpaired.append_harmless hharmless
    rw [List.append_nil] at hunexpected
    simp [hunexpected, unexpectedFrom, unterminated_of_even hend.quotes]
  | @piece before blanks text x piece pulls hblanks hx hshape hrest ih =>
    have hharmless : ∀ c ∈ blanks, Harmless c := fun c hc => harmless_of_isBlank (hblanks c hc)
    obtain ⟨hstart, hunexpected⟩ := hpaired.append_harmless hharmless
    rw [hunexpected]
    by_cases hflaw : piece.flaw = some .unterminatedString
    · obtain ⟨rfl, hinner, rfl⟩ := hshape.eq_of_unterminated hflaw
      obtain rfl := hrest.eq_of_blank (by simp)
      rw [← List.append_assoc, problems_unclosed hstart.quotes hinner]
      rfl
    · obtain ⟨hnext, hpiece⟩ := hshape.paired hx hstart hflaw
      rw [hpiece, hshape.append_text, List.append_assoc, ← ih hnext]
      cases piece.problemAt (before ++ blanks) <;> rfl

/-- Checking a text reports exactly the problems that its characters have, in order, and a strict
run goes through just if there are none. -/
theorem check_problems_eq_lexicalErrors (text : String) :
    (check text).problems = lexicalErrors text.toList ∧
      ((∃ tokens, tokenizeStrict text = .ok tokens) ↔ lexicalErrors text.toList = []) := by
  have hproblems : (stream text).filterMap Prod.snd = lexicalErrors text.toList :=
    (stream_spec text).problems ⟨rfl, fun _ _ _ => rfl⟩
  refine ⟨by rw [problems_check_eq, hproblems], ?_⟩
  rw [tokenizeStrict_eq, hproblems]
  cases lexicalErrors text.toList <;> simp

end Lexeme
