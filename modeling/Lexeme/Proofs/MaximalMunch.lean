import Lexeme.Proofs.Stream

/-!
# Maximal munch

The token language is given by its rules, and the tokens of a text by one principle: behind the
blanks, the longest front part that is in the language is taken. A text with no such front part
gives up its first character as an identifier, or all of it as a string literal if it starts with a
quote. The principle is no program, and it says nothing about the order in which rules are tried; it
nevertheless determines the tokens, and they are the ones that scanning yields.

## Main definitions

* `Spells`: the token language.
* `Longest`, `NoLexeme`: the longest front part in the language, and that there is none.
* `Front`: the token at the front of a text.
* `Munch`: the kinds and values of all tokens of a text.

## Main statements

* `Spells.unique`: a lexeme has one kind and one value.
* `Munch.unique`: the principle determines the tokens.
* `Piece.Shape.front`, `Stream.munch`: scanning follows the principle, at one token and to the end.
* `tokenize_maximalMunch`: the tokens of a text are exactly those that the principle gives.
-/

namespace Lexeme

open Text

/-! ## The token language -/

/-- The operators and delimiters with their spellings. -/
def symbols : List (List Char × Kind) :=
  [(['=', '='], .operator .equals), (['!', '='], .operator .notEquals),
   (['<', '='], .operator .lessEqual), (['>', '='], .operator .greaterEqual),
   (['&', '&'], .operator .and), (['|', '|'], .operator .or),
   (['='], .operator .assign), (['!'], .operator .not),
   (['<'], .operator .less), (['>'], .operator .greater),
   (['+'], .operator .plus), (['-'], .operator .minus),
   (['*'], .operator .multiply), (['/'], .operator .divide), (['%'], .operator .modulo),
   ([';'], .delimiter .semicolon), (['{'], .delimiter .leftBrace), (['}'], .delimiter .rightBrace),
   (['('], .delimiter .leftParen), ([')'], .delimiter .rightParen),
   ([','], .delimiter .comma), (['.'], .delimiter .dot)]

/-- `Spells lexeme kind value`: the lexeme is in the token language, and makes a token of this kind
with this value. -/
inductive Spells : List Char → Kind → List Char → Prop
  | number {digits : List Char} (hne : digits ≠ []) (hdigits : ∀ c ∈ digits, isDigit c = true) :
      Spells digits .number digits
  | keyword {x : Char} {more : List Char} {k : Keyword} (hx : isIdentStart x = true)
      (hmore : ∀ c ∈ more, isIdentContinue c = true) (hk : k.spelling.toList = x :: more) :
      Spells (x :: more) (.keyword k) (x :: more)
  | identifier {x : Char} {more : List Char} (hx : isIdentStart x = true)
      (hmore : ∀ c ∈ more, isIdentContinue c = true)
      (hk : ∀ k : Keyword, k.spelling.toList ≠ x :: more) :
      Spells (x :: more) .identifier (x :: more)
  | string {inner : List Char} (hinner : '"' ∉ inner) :
      Spells ('"' :: (inner ++ ['"'])) .stringLiteral inner
  | symbol {lexeme : List Char} {kind : Kind} (h : (lexeme, kind) ∈ symbols) :
      Spells lexeme kind lexeme

/-- `lexeme` is the longest front part of `text` in the token language. -/
structure Longest (text lexeme : List Char) (kind : Kind) (value : List Char) : Prop where
  spells : Spells lexeme kind value
  front : lexeme <+: text
  longest : ∀ other kind value, Spells other kind value → other <+: text →
    other.length ≤ lexeme.length

/-- No front part of `text` is in the token language. -/
def NoLexeme (text : List Char) : Prop :=
  ∀ other kind value, Spells other kind value → ¬ other <+: text

/-- `Front text kind value rest`: the token at the front of `text`, which does not start with a
blank, and the text behind it. -/
inductive Front (text : List Char) : Kind → List Char → List Char → Prop
  | lexeme {lexeme rest value : List Char} {kind : Kind} (htext : text = lexeme ++ rest)
      (h : Longest text lexeme kind value) : Front text kind value rest
  | unclosed {inner : List Char} (htext : text = '"' :: inner) (h : NoLexeme text) :
      Front text .stringLiteral inner []
  | stray {x : Char} {rest : List Char} (htext : text = x :: rest) (hx : x ≠ '"')
      (h : NoLexeme text) : Front text .identifier [x] rest

/-- `Munch text out`: the kinds and values of the tokens of `text`. -/
inductive Munch : List Char → List (Kind × String) → Prop
  | done {text : List Char} (h : text.dropWhile isBlank = []) : Munch text [(.eof, "")]
  | token {text value rest : List Char} {kind : Kind} {out : List (Kind × String)}
      (h : Front (text.dropWhile isBlank) kind value rest) (hrest : Munch rest out) :
      Munch text ((kind, String.ofList value) :: out)

/-! ## Lexemes by their first character -/

/-- How the rules for single and paired characters account for a symbol. -/
inductive SymbolRule : List Char → Kind → Prop
  | alone {x : Char} {alone equal : Operator} (h : Piece.equalsPair x = some (alone, equal)) :
      SymbolRule [x] (.operator alone)
  | equal {x : Char} {alone equal : Operator} (h : Piece.equalsPair x = some (alone, equal)) :
      SymbolRule [x, '='] (.operator equal)
  | double {x : Char} {o : Operator} (h : Piece.doubled x = some o) :
      SymbolRule [x, x] (.operator o)
  | single {x : Char} {kind : Kind} (h : Piece.single x = some kind) : SymbolRule [x] kind

theorem symbolRule_of_mem : ∀ s ∈ symbols, SymbolRule s.1 s.2 := by
  simp only [symbols, List.forall_mem_cons]
  exact ⟨.equal rfl, .equal rfl, .equal rfl, .equal rfl, .double rfl, .double rfl, .alone rfl,
    .alone rfl, .alone rfl, .alone rfl, .single rfl, .single rfl, .single rfl, .single rfl,
    .single rfl, .single rfl, .single rfl, .single rfl, .single rfl, .single rfl, .single rfl,
    .single rfl, nofun⟩

theorem SymbolRule.mem_symbols {lexeme : List Char} {kind : Kind} (h : SymbolRule lexeme kind) :
    (lexeme, kind) ∈ symbols := by
  cases h with
  | alone h | equal h =>
    unfold Piece.equalsPair at h
    split at h <;> simp_all [symbols]
  | double h =>
    unfold Piece.doubled at h
    split at h <;> simp_all [symbols]
  | single h =>
    unfold Piece.single at h
    split at h <;> simp_all [symbols]

theorem SymbolRule.mem_punctuation {x : Char} {more : List Char} {kind : Kind}
    (h : SymbolRule (x :: more) kind) : x ∈ punctuation ∧ x ≠ '"' := by
  cases h with
  | alone h | equal h =>
    refine ⟨Piece.mem_punctuation_of_equalsPair h, ?_⟩
    rintro rfl
    simp [Piece.equalsPair] at h
  | double h =>
    refine ⟨Piece.mem_punctuation_of_doubled h, ?_⟩
    rintro rfl
    simp [Piece.doubled] at h
  | single h =>
    refine ⟨Piece.mem_punctuation_of_single h, ?_⟩
    rintro rfl
    simp [Piece.single] at h

theorem SymbolRule.unique {lexeme : List Char} {kind kind' : Kind} (h : SymbolRule lexeme kind)
    (h' : SymbolRule lexeme kind') : kind = kind' := by
  have hunique : ∀ s ∈ symbols, ∀ t ∈ symbols, s.1 = t.1 → s.2 = t.2 := by decide
  exact hunique _ h.mem_symbols _ h'.mem_symbols rfl

theorem Keyword.mem_all (k : Keyword) : k ∈ Keyword.all := by
  cases k <;> decide

theorem Keyword.spelling_injective {j k : Keyword} (h : j.spelling = k.spelling) : j = k := by
  cases j <;> cases k <;> simp_all [Keyword.spelling]

/-- A word that is spelled like a keyword is that keyword. -/
theorem Piece.wordKind_eq_keyword {word : List Char} {k : Keyword} (h : k.spelling.toList = word) :
    wordKind word = .keyword k := by
  subst h
  unfold wordKind Keyword.ofSpelling?
  split
  · rename_i j hj
    have hspelling : j.spelling = k.spelling := by simpa using List.find?_some hj
    rw [Keyword.spelling_injective hspelling]
  · rename_i hnone
    have := List.find?_eq_none.mp hnone k k.mem_all
    simp at this

theorem Piece.wordKind_eq_identifier {word : List Char}
    (h : ∀ k : Keyword, k.spelling.toList ≠ word) : wordKind word = .identifier := by
  unfold wordKind Keyword.ofSpelling?
  split
  · rename_i j hj
    have hspelling : j.spelling = String.ofList word := by simpa using List.find?_some hj
    exact absurd (by simp [hspelling]) (h j)
  · rfl

namespace Spells

variable {x : Char} {lexeme more value : List Char} {kind : Kind}

theorem ne_nil (h : Spells lexeme kind value) : lexeme ≠ [] := by
  cases h with
  | number hne => exact hne
  | symbol h => cases symbolRule_of_mem _ h <;> simp
  | _ => simp

/-- A lexeme that starts with a digit is a number. -/
theorem of_isDigit (h : Spells (x :: more) kind value) (hx : isDigit x = true) :
    kind = .number ∧ value = x :: more ∧ ∀ c ∈ more, isDigit c = true := by
  cases h with
  | number _ hdigits => exact ⟨rfl, rfl, fun c hc => hdigits c (List.mem_cons_of_mem _ hc)⟩
  | keyword hstart | identifier hstart => simp [not_isDigit_of_isIdentStart hstart] at hx
  | string => simp [isDigit_of_mem_punctuation (by decide : '"' ∈ punctuation)] at hx
  | symbol h =>
    have hpunct := (symbolRule_of_mem _ h).mem_punctuation.1
    simp [isDigit_of_mem_punctuation hpunct] at hx

/-- A lexeme that starts like an identifier is a word. -/
theorem of_isIdentStart (h : Spells (x :: more) kind value) (hx : isIdentStart x = true) :
    kind = Piece.wordKind (x :: more) ∧ value = x :: more ∧
      ∀ c ∈ more, isIdentContinue c = true := by
  cases h with
  | number _ hdigits =>
    simp [not_isIdentStart_of_isDigit (hdigits x List.mem_cons_self)] at hx
  | keyword _ hmore hk => exact ⟨(Piece.wordKind_eq_keyword hk).symm, rfl, hmore⟩
  | identifier _ hmore hk => exact ⟨(Piece.wordKind_eq_identifier hk).symm, rfl, hmore⟩
  | string => simp [isIdentStart_of_mem_punctuation (by decide : '"' ∈ punctuation)] at hx
  | symbol h =>
    have hpunct := (symbolRule_of_mem _ h).mem_punctuation.1
    simp [isIdentStart_of_mem_punctuation hpunct] at hx

/-- A lexeme that starts with a quote is a string literal and ends with the next quote. -/
theorem of_quote (h : Spells ('"' :: more) kind value) :
    kind = .stringLiteral ∧ '"' ∉ value ∧ more = value ++ ['"'] := by
  have hquote : '"' ∈ punctuation := by decide
  cases h with
  | number _ hdigits => simp [isDigit_of_mem_punctuation hquote] at hdigits
  | keyword hx | identifier hx => simp [isIdentStart_of_mem_punctuation hquote] at hx
  | string hinner => exact ⟨rfl, hinner, rfl⟩
  | symbol h => exact absurd rfl (symbolRule_of_mem _ h).mem_punctuation.2

/-- A lexeme that starts with any other character is a symbol. -/
theorem of_other (h : Spells (x :: more) kind value) (hdigit : isDigit x = false)
    (hstart : isIdentStart x = false) (hquote : x ≠ '"') :
    SymbolRule (x :: more) kind ∧ value = x :: more := by
  cases h with
  | number _ hdigits => simp [hdigits x List.mem_cons_self] at hdigit
  | keyword hx | identifier hx => simp [hx] at hstart
  | string => exact absurd rfl hquote
  | symbol h => exact ⟨symbolRule_of_mem _ h, rfl⟩

/-- A lexeme has one kind and one value. -/
theorem unique {kind' : Kind} {value' : List Char} (h : Spells lexeme kind value)
    (h' : Spells lexeme kind' value') : kind = kind' ∧ value = value' := by
  obtain ⟨x, more, rfl⟩ := List.exists_cons_of_ne_nil h.ne_nil
  by_cases hdigit : isDigit x = true
  · obtain ⟨rfl, rfl, -⟩ := h.of_isDigit hdigit
    obtain ⟨rfl, rfl, -⟩ := h'.of_isDigit hdigit
    exact ⟨rfl, rfl⟩
  by_cases hstart : isIdentStart x = true
  · obtain ⟨rfl, rfl, -⟩ := h.of_isIdentStart hstart
    obtain ⟨rfl, rfl, -⟩ := h'.of_isIdentStart hstart
    exact ⟨rfl, rfl⟩
  by_cases hquote : x = '"'
  · subst hquote
    obtain ⟨rfl, -, rfl⟩ := h.of_quote
    obtain ⟨rfl, -, heq⟩ := h'.of_quote
    exact ⟨rfl, List.append_cancel_right heq⟩
  · rw [Bool.not_eq_true] at hdigit hstart
    obtain ⟨hrule, rfl⟩ := h.of_other hdigit hstart hquote
    obtain ⟨hrule', rfl⟩ := h'.of_other hdigit hstart hquote
    exact ⟨hrule.unique hrule', rfl⟩

end Spells

/-! ## The principle determines the tokens -/

namespace Front

variable {text value value' rest rest' : List Char} {kind kind' : Kind}

theorem ne_nil (h : Front text kind value rest) : text ≠ [] := by
  cases h with
  | lexeme htext h => simp [htext, h.spells.ne_nil]
  | unclosed htext | stray htext => simp [htext]

/-- There is one token at the front of a text. -/
theorem unique (h : Front text kind value rest) (h' : Front text kind' value' rest') :
    kind = kind' ∧ value = value' ∧ rest = rest' := by
  cases h with
  | lexeme htext h =>
    cases h' with
    | lexeme htext' h' =>
      have hlength := Nat.le_antisymm (h'.longest _ _ _ h.spells h.front)
        (h.longest _ _ _ h'.spells h'.front)
      obtain ⟨rfl, rfl⟩ := List.append_inj (htext.symm.trans htext') hlength
      obtain ⟨rfl, rfl⟩ := h.spells.unique h'.spells
      exact ⟨rfl, rfl, rfl⟩
    | unclosed _ hnone | stray _ _ hnone => exact absurd h.front (hnone _ _ _ h.spells)
  | unclosed htext hnone =>
    cases h' with
    | lexeme _ h' => exact absurd h'.front (hnone _ _ _ h'.spells)
    | unclosed htext' =>
      obtain ⟨-, rfl⟩ := List.cons.inj (htext.symm.trans htext')
      exact ⟨rfl, rfl, rfl⟩
    | stray htext' hx => exact absurd (List.cons.inj (htext.symm.trans htext')).1.symm hx
  | stray htext hx hnone =>
    cases h' with
    | lexeme _ h' => exact absurd h'.front (hnone _ _ _ h'.spells)
    | unclosed htext' => exact absurd (List.cons.inj (htext.symm.trans htext')).1 hx
    | stray htext' =>
      obtain ⟨rfl, rfl⟩ := List.cons.inj (htext.symm.trans htext')
      exact ⟨rfl, rfl, rfl⟩

end Front

theorem Munch.unique {text : List Char} {out out' : List (Kind × String)} (h : Munch text out)
    (h' : Munch text out') : out = out' := by
  induction h generalizing out' with
  | done h =>
    cases h' with
    | done => rfl
    | token hfront => exact absurd h hfront.ne_nil
  | token hfront _ ih =>
    cases h' with
    | done h => exact absurd h hfront.ne_nil
    | token hfront' hrest' =>
      obtain ⟨rfl, rfl, rfl⟩ := hfront.unique hfront'
      rw [ih hrest']

/-! ## Scanning follows the principle -/

/-- A front part with characters of one class ends no later than the run of that class. -/
theorem length_le_of_isPrefix {p : Char → Bool} {w xs ys : List Char} (hw : ∀ c ∈ w, p c = true)
    (hys : ∀ c ∈ ys.head?, p c = false) (h : w <+: xs ++ ys) : w.length ≤ xs.length := by
  induction xs generalizing w with
  | nil =>
    cases w with
    | nil => simp
    | cons c w =>
      obtain ⟨t, ht⟩ := h
      obtain rfl : c :: w ++ t = ys := ht
      have hc := hys c (by simp)
      simp [hw c List.mem_cons_self] at hc
  | cons x xs ih =>
    cases w with
    | nil => simp
    | cons c w =>
      have hrest := ih (fun d hd => hw d (List.mem_cons_of_mem _ hd)) (List.cons_prefix_cons.mp h).2
      simpa using hrest

theorem SymbolRule.length_le_two {lexeme : List Char} {kind : Kind} (h : SymbolRule lexeme kind) :
    lexeme.length ≤ 2 := by
  cases h <;> simp

/-- Of the symbols that start like an operator with an equals sign, only the longer one needs more
than the first character. -/
theorem SymbolRule.eq_of_equalsPair {x : Char} {more : List Char} {kind : Kind}
    {pair : Operator × Operator} (h : SymbolRule (x :: more) kind)
    (hx : Piece.equalsPair x = some pair) : more = [] ∨ more = ['='] := by
  cases h with
  | alone | single => exact .inl rfl
  | equal => exact .inr rfl
  | double h => simp [(Piece.lookups_of_equalsPair hx).1] at h

/-- A doubled symbol has no shorter form. -/
theorem SymbolRule.eq_of_doubled {x : Char} {more : List Char} {kind : Kind} {o : Operator}
    (h : SymbolRule (x :: more) kind) (hx : Piece.doubled x = some o) : more = [x] := by
  cases h with
  | alone h | equal h => simp [(Piece.lookups_of_doubled hx).1] at h
  | double => rfl
  | single h => simp [(Piece.lookups_of_doubled hx).2] at h

/-- A symbol of one character is part of no longer one. -/
theorem SymbolRule.eq_of_single {x : Char} {more : List Char} {kind kind' : Kind}
    (h : SymbolRule (x :: more) kind) (hx : Piece.single x = some kind') : more = [] := by
  cases h with
  | alone | single => rfl
  | equal h => simp [(Piece.lookups_of_equalsPair h).2] at hx
  | double h => simp [(Piece.lookups_of_doubled h).2] at hx

/-- Only lexemes with the same first character have to be compared. -/
theorem Longest.of_cons {x : Char} {more rest value : List Char} {kind : Kind}
    (h : Spells (x :: more) kind value)
    (hmax : ∀ w kind value, Spells (x :: w) kind value → w <+: more ++ rest →
      w.length ≤ more.length) :
    Longest (x :: (more ++ rest)) (x :: more) kind value := by
  refine ⟨h, List.prefix_append _ _, ?_⟩
  intro other kind value hother hfront
  rcases List.prefix_cons_iff.mp hfront with rfl | ⟨w, rfl, hw⟩
  · simp
  · simpa using hmax w kind value hother hw

theorem NoLexeme.of_cons {x : Char} {text : List Char}
    (h : ∀ w kind value, Spells (x :: w) kind value → ¬ w <+: text) : NoLexeme (x :: text) := by
  intro other kind value hother hfront
  rcases List.prefix_cons_iff.mp hfront with rfl | ⟨w, rfl, hw⟩
  · exact hother.ne_nil rfl
  · exact h w kind value hother hw

theorem Spells.word {x : Char} {more : List Char} (hx : isIdentStart x = true)
    (hmore : ∀ c ∈ more, isIdentContinue c = true) :
    Spells (x :: more) (Piece.wordKind (x :: more)) (x :: more) := by
  by_cases h : ∃ k : Keyword, k.spelling.toList = x :: more
  · obtain ⟨k, hk⟩ := h
    rw [Piece.wordKind_eq_keyword hk]
    exact .keyword hx hmore hk
  · have hk : ∀ k : Keyword, k.spelling.toList ≠ x :: more := fun k hk => h ⟨k, hk⟩
    rw [Piece.wordKind_eq_identifier hk]
    exact .identifier hx hmore hk

/-- What a symbol starts with is told apart from all other lexemes. -/
theorem Spells.symbolRule {x : Char} {more value : List Char} {kind : Kind}
    (h : Spells (x :: more) kind value) (hx : x ∈ punctuation) (hquote : x ≠ '"') :
    SymbolRule (x :: more) kind :=
  (h.of_other (isDigit_of_mem_punctuation hx) (isIdentStart_of_mem_punctuation hx) hquote).1

/-- A symbol is longest if no symbol that starts like it goes further into the text. -/
theorem SymbolRule.longest {x : Char} {more rest : List Char} {kind : Kind}
    (h : SymbolRule (x :: more) kind)
    (hmax : ∀ w kind', SymbolRule (x :: w) kind' → w <+: more ++ rest → w.length ≤ more.length) :
    Longest (x :: (more ++ rest)) (x :: more) kind (x :: more) := by
  obtain ⟨hpunct, hquote⟩ := h.mem_punctuation
  refine .of_cons (.symbol h.mem_symbols) ?_
  intro w kind' value hw hfront
  exact hmax w kind' (hw.symbolRule hpunct hquote) hfront

/-- A piece is the token at the front of its text. -/
theorem Piece.Shape.front {x : Char} {text : List Char} {piece : Piece}
    (h : piece.Shape x text) : Front (x :: text) piece.kind piece.value piece.rest := by
  cases h with
  | number hx hdigits hrest =>
    refine .lexeme rfl (.of_cons (.number (by simp) (by simpa [hx] using hdigits)) ?_)
    intro w _ _ hw hfront
    exact length_le_of_isPrefix (hw.of_isDigit hx).2.2 hrest hfront
  | @closed inner rest hinner =>
    have htext : '"' :: (inner ++ '"' :: rest) = '"' :: ((inner ++ ['"']) ++ rest) := by simp
    rw [htext]
    refine .lexeme rfl (.of_cons (.string hinner) ?_)
    intro w _ value hw hfront
    obtain ⟨-, hvalue, rfl⟩ := hw.of_quote
    have hfront : value <+: inner ++ '"' :: rest := by
      simpa using (List.prefix_append value ['"']).trans hfront
    have hclass : ∀ c ∈ value, (c != '"') = true := by
      intro c hc
      simpa using ne_of_mem_of_not_mem hc hvalue
    simpa using length_le_of_isPrefix hclass (by simp) hfront
  | unclosed htext =>
    refine .unclosed rfl (.of_cons ?_)
    intro w _ _ hw hfront
    obtain ⟨-, -, rfl⟩ := hw.of_quote
    exact htext (hfront.subset (by simp))
  | equal hx =>
    refine .lexeme rfl ((SymbolRule.equal hx).longest ?_)
    intro w _ hw _
    simpa using hw.length_le_two
  | alone hx htext =>
    refine .lexeme rfl ((SymbolRule.alone hx).longest ?_)
    intro w _ hw hfront
    rcases hw.eq_of_equalsPair hx with rfl | rfl
    · simp
    · obtain ⟨rest, rfl⟩ := hfront
      exact absurd rfl htext
  | double hx =>
    refine .lexeme rfl ((SymbolRule.double hx).longest ?_)
    intro w _ hw _
    simpa using hw.length_le_two
  | half hx htext =>
    obtain ⟨hpunct, hquote⟩ := (SymbolRule.double hx).mem_punctuation
    refine .stray rfl hquote (.of_cons ?_)
    intro w _ _ hw hfront
    obtain rfl := (hw.symbolRule hpunct hquote).eq_of_doubled hx
    obtain ⟨rest, rfl⟩ := hfront
    exact htext rfl
  | single hx =>
    refine .lexeme rfl ((SymbolRule.single hx).longest ?_)
    intro w _ hw _
    simp [hw.eq_of_single hx]
  | word hx hmore hrest =>
    refine .lexeme rfl (.of_cons (.word hx hmore) ?_)
    intro w _ _ hw hfront
    exact length_le_of_isPrefix (hw.of_isIdentStart hx).2.2 hrest hfront
  | stray hx hdigit hstart =>
    have hquote := ne_quote_of_not_mem_punctuation hx
    refine .stray rfl hquote (.of_cons ?_)
    intro w _ _ hw _
    exact hx (hw.of_other hdigit hstart hquote).1.mem_punctuation.1

/-- What is handed out for a text are the tokens that the principle gives. -/
theorem Stream.munch {before text : List Char} {pulls : List (Token × Option Problem)}
    (h : Stream before text pulls) : Munch text (pulls.map fun p => (p.1.kind, p.1.value)) := by
  induction h with
  | done hblanks =>
    have hnil := @List.dropWhile_append_of_pos _ isBlank _ [] hblanks
    exact .done (by simpa using hnil)
  | piece hblanks hx hshape _ ih =>
    refine .token ?_ ih
    rw [List.dropWhile_append_of_pos hblanks, List.dropWhile_cons_of_neg (by simp [hx])]
    exact hshape.front

/-- The two reserved operators have no spelling. -/
theorem Spells.kind_ne_reserved {lexeme value : List Char} {kind : Kind}
    (h : Spells lexeme kind value) :
    kind ≠ .operator .increment ∧ kind ≠ .operator .decrement := by
  cases h with
  | symbol h =>
    have hsymbols : ∀ s ∈ symbols,
        s.2 ≠ .operator .increment ∧ s.2 ≠ .operator .decrement := by decide
    exact hsymbols _ h
  | _ => simp

theorem Munch.kind_ne_reserved {text : List Char} {out : List (Kind × String)}
    (h : Munch text out) : ∀ p ∈ out, p.1 ≠ .operator .increment ∧ p.1 ≠ .operator .decrement := by
  induction h with
  | done => simp
  | token hfront _ ih =>
    refine List.forall_mem_cons.mpr ⟨?_, ih⟩
    cases hfront with
    | lexeme _ h => exact h.spells.kind_ne_reserved
    | _ => simp

/-- The kinds and values of the tokens of a text are exactly what maximal munch gives, and the
reserved operators are not among them. -/
theorem tokenize_maximalMunch (text : String) :
    (∀ out, Munch text.toList out ↔ out = (tokenize text).map fun t => (t.kind, t.value)) ∧
      ∀ t ∈ tokenize text, t.kind ≠ .operator .increment ∧ t.kind ≠ .operator .decrement := by
  have hmunch : Munch text.toList ((tokenize text).map fun t => (t.kind, t.value)) := by
    rw [tokenize_eq, List.map_map]
    exact (stream_spec text).munch
  refine ⟨fun out => ⟨fun h => h.unique hmunch, ?_⟩, ?_⟩
  · rintro rfl
    exact hmunch
  · intro t ht
    exact hmunch.kind_ne_reserved (t.kind, t.value) (List.mem_map_of_mem ht)

end Lexeme
