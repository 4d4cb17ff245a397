import Lexeme.Proofs.CharClass
import Lexeme.Scan.Piece

/-!
# The shapes of pieces

Everything that can be cut from the front of a text, one case for each rule. What is proved about
scanning goes through these cases and never opens the rules again.

## Main definitions

* `Piece.Shape`: the rules, each with the text it applies to and the piece it gives.

## Main statements

* `Piece.cut_shape`: every piece comes from one of the rules.
* `Piece.Shape.cut_eq`: no other piece comes from them.
* `Piece.Shape.text_eq`: a piece takes the front of the text and leaves the rest.
* `Piece.Shape.kind_ne_eof`: the end of the input is no piece.
-/

namespace Lexeme

open Text

namespace Piece

/-! ## Characters of operators and delimiters -/

theorem mem_punctuation_of_equalsPair {c : Char} {pair : Operator × Operator}
    (h : equalsPair c = some pair) : c ∈ punctuation := by
  unfold equalsPair at h
  split at h <;> simp_all [punctuation]

theorem mem_punctuation_of_doubled {c : Char} {o : Operator} (h : doubled c = some o) :
    c ∈ punctuation := by
  unfold doubled at h
  split at h <;> simp_all [punctuation]

theorem mem_punctuation_of_single {c : Char} {kind : Kind} (h : single c = some kind) :
    c ∈ punctuation := by
  unfold single at h
  split at h <;> simp_all [punctuation]

/-- Punctuation is what one of the three look-ups finds, and the quote. -/
theorem mem_punctuation_iff (c : Char) :
    c ∈ punctuation ↔
      (equalsPair c).isSome ∨ (doubled c).isSome ∨ (single c).isSome ∨ c = '"' := by
  constructor
  · intro h
    simp only [punctuation, List.mem_cons, List.not_mem_nil, or_false] at h
    rcases h with rfl | rfl | rfl | rfl | rfl | rfl | rfl | rfl | rfl | rfl | rfl | rfl | rfl |
      rfl | rfl | rfl | rfl | rfl | rfl <;> decide
  · rintro (h | h | h | rfl)
    · obtain ⟨pair, h⟩ := Option.isSome_iff_exists.mp h
      exact mem_punctuation_of_equalsPair h
    · obtain ⟨o, h⟩ := Option.isSome_iff_exists.mp h
      exact mem_punctuation_of_doubled h
    · obtain ⟨kind, h⟩ := Option.isSome_iff_exists.mp h
      exact mem_punctuation_of_single h
    · decide

/-- No character is found by two of the look-ups. -/
theorem lookups_of_equalsPair {c : Char} {pair : Operator × Operator}
    (h : equalsPair c = some pair) : doubled c = none ∧ single c = none := by
  unfold equalsPair at h
  split at h <;> grind [doubled, single]

theorem lookups_of_doubled {c : Char} {o : Operator} (h : doubled c = some o) :
    equalsPair c = none ∧ single c = none := by
  unfold doubled at h
  split at h <;> grind [equalsPair, single]

theorem lookups_of_not_mem_punctuation {c : Char} (h : c ∉ punctuation) :
    equalsPair c = none ∧ doubled c = none ∧ single c = none ∧ c ≠ '"' := by
  simpa [mem_punctuation_iff] using h

/-! ## Kinds of symbols and words -/

theorem kind_of_single {c : Char} {kind : Kind} (h : single c = some kind) :
    (∃ o, kind = .operator o) ∨ ∃ d, kind = .delimiter d := by
  unfold single at h
  split at h <;> cases h <;> simp

theorem wordKind_cases (word : List Char) :
    (∃ k, wordKind word = .keyword k) ∨ wordKind word = .identifier := by
  unfold wordKind
  split <;> simp

/-! ## Shapes -/

/-- `Shape x text piece`: at the front of `x :: text` stands `piece`. -/
inductive Shape : Char → List Char → Piece → Prop
  | number {x : Char} {digits rest : List Char} (hx : isDigit x = true)
      (hdigits : ∀ c ∈ digits, isDigit c = true) (hrest : ∀ c ∈ rest.head?, isDigit c = false) :
      Shape x (digits ++ rest) (plain .number (x :: digits) rest)
  | closed {inner rest : List Char} (hinner : '"' ∉ inner) :
      Shape '"' (inner ++ '"' :: rest)
        ⟨.stringLiteral, inner, '"' :: (inner ++ ['"']), rest, none⟩
  | unclosed {text : List Char} (htext : '"' ∉ text) :
      Shape '"' text ⟨.stringLiteral, text, '"' :: text, [], some .unterminatedString⟩
  | equal {x : Char} {alone equal : Operator} {rest : List Char}
      (hx : equalsPair x = some (alone, equal)) :
      Shape x ('=' :: rest) (plain (.operator equal) [x, '='] rest)
  | alone {x : Char} {alone equal : Operator} {text : List Char}
      (hx : equalsPair x = some (alone, equal)) (htext : text.head? ≠ some '=') :
      Shape x text (plain (.operator alone) [x] text)
  | double {x : Char} {o : Operator} {rest : List Char} (hx : doubled x = some o) :
      Shape x (x :: rest) (plain (.operator o) [x, x] rest)
  | half {x : Char} {o : Operator} {text : List Char} (hx : doubled x = some o)
      (htext : text.head? ≠ some x) : Shape x text (stray x text)
  | single {x : Char} {kind : Kind} {text : List Char} (hx : single x = some kind) :
      Shape x text (plain kind [x] text)
  | word {x : Char} {more rest : List Char} (hx : isIdentStart x = true)
      (hmore : ∀ c ∈ more, isIdentContinue c = true)
      (hrest : ∀ c ∈ rest.head?, isIdentContinue c = false) :
      Shape x (more ++ rest) (plain (wordKind (x :: more)) (x :: more) rest)
  | stray {x : Char} {text : List Char} (hx : x ∉ punctuation) (hdigit : isDigit x = false)
      (hstart : isIdentStart x = false) : Shape x text (stray x text)

/-- A run is cut where its characters end. -/
theorem run_eq_plain (kindOf : List Char → Kind) (p : Char → Bool) (x : Char) (text : List Char) :
    ∃ more rest, text = more ++ rest ∧ (∀ c ∈ more, p c = true) ∧
      (∀ c ∈ rest.head?, p c = false) ∧
      run kindOf p x text = plain (kindOf (x :: more)) (x :: more) rest := by
  refine ⟨text.takeWhile p, text.dropWhile p, List.takeWhile_append_dropWhile.symm, ?_, ?_, rfl⟩
  · intro c hc
    exact List.all_eq_true.mp List.all_takeWhile c hc
  · exact head?_dropWhile_eq_false p text

theorem string_shape (text : List Char) : Shape '"' text (string text) := by
  have hinner : '"' ∉ text.takeWhile (· != '"') := by
    intro h
    simpa using List.all_eq_true.mp (List.all_takeWhile (p := (· != '"')) (l := text)) _ h
  have happend := List.takeWhile_append_dropWhile (p := (· != '"')) (l := text)
  unfold string
  split
  · rename_i d rest hd
    obtain rfl : d = '"' := eq_of_dropWhile_eq_cons hd
    rw [hd] at happend
    have hshape := @Shape.closed _ rest hinner
    rw [happend] at hshape
    exact hshape
  · rename_i hd
    rw [hd, List.append_nil] at happend
    simp only [happend] at hinner ⊢
    exact .unclosed hinner

theorem paired_equal_shape {x : Char} {alone equal : Operator} (text : List Char)
    (hx : equalsPair x = some (alone, equal)) :
    Shape x text (paired x '=' equal (plain (.operator alone) [x]) text) := by
  unfold paired
  split
  · split
    · rename_i d rest hd
      subst hd
      exact .equal hx
    · exact .alone hx (by simpa)
  · exact .alone hx (by simp)

theorem paired_double_shape {x : Char} {o : Operator} (text : List Char) (hx : doubled x = some o) :
    Shape x text (paired x x o (Piece.stray x) text) := by
  unfold paired
  split
  · split
    · rename_i d rest hd
      subst hd
      exact .double hx
    · exact .half hx (by simpa)
  · exact .half hx (by simp)

/-- Every piece comes from one of the rules. -/
theorem cut_shape (x : Char) (text : List Char) : Shape x text (cut x text) := by
  unfold cut
  split
  · rename_i hx
    obtain ⟨digits, rest, rfl, hdigits, hrest, heq⟩ :=
      run_eq_plain (fun _ => .number) isDigit x text
    rw [heq]
    exact .number hx hdigits hrest
  rename_i hdigit
  split
  · rename_i hx
    subst hx
    exact string_shape text
  rename_i hquote
  split
  · exact paired_equal_shape text ‹_›
  split
  · exact paired_double_shape text ‹_›
  split
  · exact .single ‹_›
  rename_i _ hpair _ hdoubled _ hsingle
  split
  · rename_i hx
    obtain ⟨more, rest, rfl, hmore, hrest, heq⟩ := run_eq_plain wordKind isIdentContinue x text
    rw [heq]
    exact .word hx hmore hrest
  · rename_i hstart
    refine .stray ?_ (by simpa using hdigit) (by simpa using hstart)
    simp [mem_punctuation_iff, hpair, hdoubled, hsingle, hquote]

/-! ## One rule for each text -/

/-- A run ends before a character of another class, whatever comes behind it. -/
theorem run_append {kindOf : List Char → Kind} {p : Char → Bool} {x : Char}
    {more rest : List Char} (hmore : ∀ c ∈ more, p c = true)
    (hrest : ∀ c ∈ rest.head?, p c = false) :
    run kindOf p x (more ++ rest) = plain (kindOf (x :: more)) (x :: more) rest := by
  have htake : rest.takeWhile p = [] := by
    cases rest with
    | nil => rfl
    | cons c rest => simp [hrest c rfl]
  have hdrop : rest.dropWhile p = rest := by
    cases rest with
    | nil => rfl
    | cons c rest => simp [hrest c rfl]
  simp [run, List.takeWhile_append_of_pos hmore, List.dropWhile_append_of_pos hmore, htake, hdrop]

theorem string_append {inner rest : List Char} (hinner : '"' ∉ inner) :
    string (inner ++ '"' :: rest) =
      ⟨.stringLiteral, inner, '"' :: (inner ++ ['"']), rest, none⟩ := by
  have hclass : ∀ c ∈ inner, (c != '"') = true := by
    intro c hc
    simpa using ne_of_mem_of_not_mem hc hinner
  simp [string, List.takeWhile_append_of_pos hclass, List.dropWhile_append_of_pos hclass]

theorem string_of_not_mem {text : List Char} (htext : '"' ∉ text) :
    string text = ⟨.stringLiteral, text, '"' :: text, [], some .unterminatedString⟩ := by
  have hclass : ∀ c ∈ text, (c != '"') = true := by
    intro c hc
    simpa using ne_of_mem_of_not_mem hc htext
  have htake := @List.takeWhile_append_of_pos _ _ _ [] hclass
  have hdrop := @List.dropWhile_append_of_pos _ _ _ [] hclass
  simp only [List.append_nil, List.takeWhile_nil, List.dropWhile_nil] at htake hdrop
  simp [string, htake, hdrop]

theorem paired_of_head?_ne {x follow : Char} {second : Operator} {first : List Char → Piece}
    {text : List Char} (htext : text.head? ≠ some follow) :
    paired x follow second first text = first text := by
  unfold paired
  split
  · exact if_neg (by simpa using htext)
  · rfl

theorem cut_of_equalsPair {x : Char} {alone equal : Operator} (text : List Char)
    (hx : equalsPair x = some (alone, equal)) :
    cut x text = paired x '=' equal (plain (.operator alone) [x]) text := by
  have hdigit := isDigit_of_mem_punctuation (mem_punctuation_of_equalsPair hx)
  have hquote : x ≠ '"' := by
    rintro rfl
    simp [equalsPair] at hx
  simp [cut, hdigit, hquote, hx]

theorem cut_of_doubled {x : Char} {o : Operator} (text : List Char) (hx : doubled x = some o) :
    cut x text = paired x x o (stray x) text := by
  have hdigit := isDigit_of_mem_punctuation (mem_punctuation_of_doubled hx)
  have hquote : x ≠ '"' := by
    rintro rfl
    simp [doubled] at hx
  simp [cut, hdigit, hquote, hx, (lookups_of_doubled hx).1]

theorem cut_of_single {x : Char} {kind : Kind} (text : List Char) (hx : single x = some kind) :
    cut x text = plain kind [x] text := by
  have hdigit := isDigit_of_mem_punctuation (mem_punctuation_of_single hx)
  have hquote : x ≠ '"' := by
    rintro rfl
    simp [single] at hx
  have hpair : equalsPair x = none := by
    refine Option.eq_none_iff_forall_ne_some.mpr ?_
    intro pair hpair
    simp [(lookups_of_equalsPair hpair).2] at hx
  have hdoubled : doubled x = none := by
    refine Option.eq_none_iff_forall_ne_some.mpr ?_
    intro o hdoubled
    simp [(lookups_of_doubled hdoubled).2] at hx
  simp [cut, hdigit, hquote, hx, hpair, hdoubled]

theorem cut_of_not_mem_punctuation {x : Char} (text : List Char) (hx : x ∉ punctuation)
    (hdigit : isDigit x = false) :
    cut x text =
      if isIdentStart x then run wordKind isIdentContinue x text else stray x text := by
  obtain ⟨hpair, hdoubled, hsingle, hquote⟩ := lookups_of_not_mem_punctuation hx
  simp [cut, hdigit, hquote, hpair, hdoubled, hsingle]

namespace Shape

variable {x : Char} {text : List Char} {piece : Piece}

/-- The rules exclude each other: each text has the piece that is cut from it, and no other. -/
theorem cut_eq (h : Shape x text piece) : cut x text = piece := by
  have hquote : '"' ∈ punctuation := by decide
  cases h with
  | number hx hdigits hrest => simp [cut, hx, run_append hdigits hrest]
  | closed hinner => simp [cut, isDigit_of_mem_punctuation hquote, string_append hinner]
  | unclosed htext => simp [cut, isDigit_of_mem_punctuation hquote, string_of_not_mem htext]
  | equal hx => simp [cut_of_equalsPair _ hx, paired]
  | alone hx htext => rw [cut_of_equalsPair _ hx, paired_of_head?_ne htext]
  | double hx => simp [cut_of_doubled _ hx, paired]
  | half hx htext => rw [cut_of_doubled _ hx, paired_of_head?_ne htext]
  | single hx => exact cut_of_single _ hx
  | word hx hmore hrest =>
    have hpunct : x ∉ punctuation := by
      intro hpunct
      simp [isIdentStart_of_mem_punctuation hpunct] at hx
    rw [cut_of_not_mem_punctuation _ hpunct (not_isDigit_of_isIdentStart hx), if_pos hx,
      run_append hmore hrest]
  | stray hx hdigit hstart => simp [cut_of_not_mem_punctuation _ hx hdigit, hstart]

/-- A piece takes the front of the text and leaves the rest. -/
theorem text_eq (h : Shape x text piece) : x :: text = piece.taken ++ piece.rest := by
  cases h <;> simp [plain, Piece.stray]

/-- The whole text, when blanks are skipped and a piece is taken from it. -/
theorem append_text (h : Shape x text piece) (before blanks : List Char) :
    before ++ (blanks ++ x :: text) = before ++ blanks ++ piece.taken ++ piece.rest := by
  rw [h.text_eq]
  simp

theorem exists_taken (h : Shape x text piece) : ∃ more, piece.taken = x :: more := by
  cases h <;> simp [plain, Piece.stray]

/-- A piece takes the first character. -/
theorem mem_taken (h : Shape x text piece) : x ∈ piece.taken := by
  cases h <;> simp [plain, Piece.stray]

/-- The end of the input is no piece. -/
theorem kind_ne_eof (h : Shape x text piece) : piece.kind ≠ .eof := by
  cases h with
  | single hx => obtain ⟨o, rfl⟩ | ⟨d, rfl⟩ := kind_of_single hx <;> simp [plain]
  | @word _ more => obtain ⟨k, hk⟩ | hk := wordKind_cases (x :: more) <;> simp [plain, hk]
  | _ => simp [plain, Piece.stray]

end Shape

end Piece

end Lexeme
