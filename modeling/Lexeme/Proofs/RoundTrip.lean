import Lexeme.Proofs.MaximalMunch
import Mathlib.Data.List.Chain

/-!
# Writing tokens and reading them back

Kinds and values of tokens can be written down, each as its lexeme, with blanks before, between and
after them. Reading the text strictly gives the same kinds and values back just if blanks stand
wherever a token would read on into the next one: between a word and what can go on with it, between
two numbers, and between an operator and an equals sign that makes a longer operator of it.

## Main definitions

* `IsValue`, `writtenAs`: the values that tokens of a kind can have, and how they are written.
* `Item`, `Blanks`: what a text is put together from.
* `render`: the text of items with blanks between them.
* `Fuses`: the pairs of items that must not be written without a blank between them.
* `ReadsOn`, `Stops`: whether a lexeme goes on with the text behind it.

## Main statements

* `spells_iff`: the token language, from kinds and values to lexemes.
* `Spells.shape_of_stops`: a lexeme that stops is cut as a piece without flaw.
* `Front.stops`: a lexeme that is the token at the front of a text stops there.
* `Item.stops_render_iff`: an item stops just if it does not fuse with the next one.
* `tokenizeStrict_render_iff`: items are read back just if no two of them fuse.
-/

namespace Lexeme

open Text

/-! ## Items -/

/-- A letter or an underscore, and then letters, underscores and digits. -/
def isWord : List Char → Bool
  | [] => false
  | x :: more => isIdentStart x && more.all isIdentContinue

/-- What the value of a token can be, by its kind. -/
def IsValue (value : List Char) : Kind → Prop
  | .eof => False
  | .keyword k => value = k.spelling.toList
  | .identifier => isWord value = true ∧ ∀ k : Keyword, k.spelling.toList ≠ value
  | .number => value ≠ [] ∧ ∀ c ∈ value, isDigit c = true
  | .stringLiteral => '"' ∉ value
  | .operator o => (value, .operator o) ∈ symbols
  | .delimiter d => (value, .delimiter d) ∈ symbols

/-- The lexeme of a token: its value, in quotes if it is a string literal. -/
def writtenAs (kind : Kind) (value : List Char) : List Char :=
  if kind = .stringLiteral then '"' :: (value ++ ['"']) else value

theorem writtenAs_of_ne {kind : Kind} (h : kind ≠ .stringLiteral) (value : List Char) :
    writtenAs kind value = value := if_neg h

/-- A kind with a value that it can have. -/
structure Item where
  kind : Kind
  value : List Char
  isValue : IsValue value kind

def Item.text (i : Item) : List Char := writtenAs i.kind i.value

/-- A stretch of blanks, maybe empty. -/
structure Blanks where
  chars : List Char
  blank : ∀ c ∈ chars, isBlank c = true

/-- The items, each behind its blanks, and blanks after the last one. -/
def render : List (Blanks × Item) → Blanks → List Char
  | [], tail => tail.chars
  | (blanks, i) :: parts, tail => blanks.chars ++ (i.text ++ render parts tail)

/-- Kinds and values of the items, and of the end token. -/
def readBack (parts : List (Blanks × Item)) : List (Kind × String) :=
  parts.map (fun p => (p.2.kind, String.ofList p.2.value)) ++ [(.eof, "")]

/-- The operators that an equals sign turns into another one. -/
def openers : List (List Char) := [['='], ['!'], ['<'], ['>']]

/-- The pairs of items that need a blank between them: a word and what starts like the rest of a
word, two numbers, and an operator before an equals sign that belongs to it. -/
def Fuses (left right : Item) : Prop :=
  ((left.kind.isKeyword = true ∨ left.kind = .identifier) ∧
      ∃ c ∈ right.text.head?, isIdentContinue c = true) ∨
    (left.kind = .number ∧ right.kind = .number) ∨
    (left.text ∈ openers ∧ right.text.head? = some '=')

/-- No pair that fuses stands without a blank between its items. -/
def Separated (parts : List (Blanks × Item)) : Prop :=
  parts.IsChain fun p q => q.1.chars = [] → ¬ Fuses p.2 q.2

/-! ## Lexemes of kinds and values -/

theorem isWord_spelling (k : Keyword) : isWord k.spelling.toList = true := by
  have hall : Keyword.all.all (fun k => isWord k.spelling.toList) = true := by decide +kernel
  exact List.all_eq_true.mp hall k k.mem_all

theorem exists_of_isWord {word : List Char} (h : isWord word = true) :
    ∃ x more, word = x :: more ∧ isIdentStart x = true ∧
      ∀ c ∈ more, isIdentContinue c = true := by
  cases word with
  | nil => simp [isWord] at h
  | cons x more =>
    simp only [isWord, Bool.and_eq_true, List.all_eq_true] at h
    exact ⟨x, more, rfl, h⟩

theorem kind_of_mem_symbols {lexeme : List Char} {kind : Kind} (h : (lexeme, kind) ∈ symbols) :
    (∃ o, kind = .operator o) ∨ ∃ d, kind = .delimiter d := by
  cases symbolRule_of_mem _ h with
  | alone | equal | double => exact .inl ⟨_, rfl⟩
  | single h => exact Piece.kind_of_single h

/-- The token language, from kinds and values to lexemes. -/
theorem spells_iff {lexeme value : List Char} {kind : Kind} :
    Spells lexeme kind value ↔ IsValue value kind ∧ lexeme = writtenAs kind value := by
  constructor
  · intro h
    cases h with
    | number hne hdigits => exact ⟨⟨hne, hdigits⟩, rfl⟩
    | keyword _ _ hk => exact ⟨hk.symm, rfl⟩
    | identifier hx hmore hk => exact ⟨⟨by simpa [isWord, hx] using hmore, hk⟩, rfl⟩
    | string hinner => exact ⟨hinner, rfl⟩
    | symbol h => obtain ⟨o, rfl⟩ | ⟨d, rfl⟩ := kind_of_mem_symbols h <;> exact ⟨h, rfl⟩
  · rintro ⟨h, rfl⟩
    cases kind with
    | eof => exact h.elim
    | keyword k =>
      obtain ⟨x, more, hword, hx, hmore⟩ := exists_of_isWord (isWord_spelling k)
      obtain rfl : value = x :: more := h.trans hword
      exact .keyword hx hmore hword
    | identifier =>
      obtain ⟨x, more, rfl, hx, hmore⟩ := exists_of_isWord h.1
      exact .identifier hx hmore h.2
    | number => exact .number h.1 h.2
    | stringLiteral => exact .string h
    | operator o | delimiter d => exact .symbol h

theorem Item.spells (i : Item) : Spells i.text i.kind i.value := spells_iff.mpr ⟨i.isValue, rfl⟩

/-- No lexeme starts with a blank. -/
theorem Spells.exists_cons {lexeme value : List Char} {kind : Kind}
    (h : Spells lexeme kind value) : ∃ x more, lexeme = x :: more ∧ isBlank x = false := by
  obtain ⟨x, more, rfl⟩ := List.exists_cons_of_ne_nil h.ne_nil
  refine ⟨x, more, rfl, Bool.eq_false_iff.mpr ?_⟩
  intro hblank
  have hcontinue := isIdentContinue_of_isBlank hblank
  cases h with
  | number _ hdigits => simp [isIdentContinue, hdigits x List.mem_cons_self] at hcontinue
  | keyword hx | identifier hx => simp [isIdentContinue, hx] at hcontinue
  | string => exact not_mem_punctuation_of_isBlank hblank (by decide)
  | symbol h =>
    exact not_mem_punctuation_of_isBlank hblank (symbolRule_of_mem _ h).mem_punctuation.1

/-! ## Reading on -/

/-- A token with this lexeme and kind reads on into `c`, if that comes next. -/
def ReadsOn (lexeme : List Char) (kind : Kind) (c : Char) : Prop :=
  ((kind.isKeyword = true ∨ kind = .identifier) ∧ isIdentContinue c = true) ∨
    (kind = .number ∧ isDigit c = true) ∨ (lexeme ∈ openers ∧ c = '=')

/-- The token does not read on into `rest`. -/
def Stops (lexeme : List Char) (kind : Kind) (rest : List Char) : Prop :=
  ∀ c ∈ rest.head?, ¬ ReadsOn lexeme kind c

theorem not_readsOn_of_isBlank {c : Char} (h : isBlank c = true) (lexeme : List Char)
    (kind : Kind) : ¬ ReadsOn lexeme kind c := by
  rintro (⟨-, hc⟩ | ⟨-, hc⟩ | ⟨-, rfl⟩)
  · simp [isIdentContinue_of_isBlank h] at hc
  · simp [isDigit_of_isBlank h] at hc
  · exact not_mem_punctuation_of_isBlank h (by decide)

theorem Stops.isIdentContinue {lexeme rest : List Char} {kind : Kind}
    (h : Stops lexeme kind rest) (hkind : kind.isKeyword = true ∨ kind = .identifier) :
    ∀ c ∈ rest.head?, isIdentContinue c = false := by
  intro c hc
  refine Bool.eq_false_iff.mpr ?_
  intro hcontinue
  exact h c hc (.inl ⟨hkind, hcontinue⟩)

theorem mem_openers_of_equalsPair {x : Char} {pair : Operator × Operator}
    (h : Piece.equalsPair x = some pair) : [x] ∈ openers := by
  unfold Piece.equalsPair at h
  split at h <;> simp_all [openers]

/-- A lexeme that stops is cut from the front of its text, and has no flaw. -/
theorem Spells.shape_of_stops {lexeme value rest : List Char} {kind : Kind}
    (h : Spells lexeme kind value) (hstops : Stops lexeme kind rest) :
    ∃ x text, lexeme ++ rest = x :: text ∧
      Piece.Shape x text ⟨kind, value, lexeme, rest, none⟩ := by
  cases h with
  | number hne hdigits =>
    obtain ⟨x, more, rfl⟩ := List.exists_cons_of_ne_nil hne
    obtain ⟨hx, hmore⟩ := List.forall_mem_cons.mp hdigits
    refine ⟨x, more ++ rest, rfl, .number hx hmore ?_⟩
    intro c hc
    refine Bool.eq_false_iff.mpr ?_
    intro hdigit
    exact hstops c hc (.inr (.inl ⟨rfl, hdigit⟩))
  | @keyword x more k hx hmore hk =>
    rw [← Piece.wordKind_eq_keyword hk]
    exact ⟨x, more ++ rest, rfl, .word hx hmore (hstops.isIdentContinue (.inl rfl))⟩
  | @identifier x more hx hmore hk =>
    rw [← Piece.wordKind_eq_identifier hk]
    exact ⟨x, more ++ rest, rfl, .word hx hmore (hstops.isIdentContinue (.inr rfl))⟩
  | string hinner => exact ⟨'"', value ++ '"' :: rest, by simp, .closed hinner⟩
  | symbol h =>
    cases symbolRule_of_mem _ h with
    | @alone x alone equal hx =>
      refine ⟨x, rest, rfl, .alone hx ?_⟩
      intro hhead
      exact hstops '=' hhead (.inr (.inr ⟨mem_openers_of_equalsPair hx, rfl⟩))
    | @equal x alone equal hx => exact ⟨x, '=' :: rest, rfl, .equal hx⟩
    | @double x o hx => exact ⟨x, x :: rest, rfl, .double hx⟩
    | @single x kind hx => exact ⟨x, rest, rfl, .single hx⟩

/-- A stream that starts with a lexeme which stops. -/
theorem Spells.stream_cons {lexeme value blanks rest before : List Char} {kind : Kind}
    {pulls : List (Token × Option Problem)} (h : Spells lexeme kind value)
    (hstops : Stops lexeme kind rest) (hblanks : ∀ c ∈ blanks, isBlank c = true)
    (hrest : Stream (before ++ blanks ++ lexeme) rest pulls) :
    Stream before (blanks ++ (lexeme ++ rest))
      ((⟨kind, String.ofList value, .over (before ++ blanks) lexeme⟩, none) :: pulls) := by
  obtain ⟨x, text, htext, hshape⟩ := h.shape_of_stops hstops
  obtain ⟨y, more, rfl, hy⟩ := h.exists_cons
  obtain rfl : y = x := (List.cons.inj htext).1
  rw [htext]
  exact .piece hblanks hy hshape hrest

/-- A lexeme that reads on is part of a longer one. -/
theorem Spells.append_of_readsOn {lexeme value : List Char} {kind : Kind} {c : Char}
    (h : Spells lexeme kind value) (hc : ReadsOn lexeme kind c) :
    ∃ kind' value', Spells (lexeme ++ [c]) kind' value' := by
  obtain ⟨hvalue, hlexeme⟩ := spells_iff.mp h
  rcases hc with ⟨hkind, hc⟩ | ⟨rfl, hc⟩ | ⟨hopener, rfl⟩
  · have hword : isWord lexeme = true := by
      cases kind with
      | keyword k => rw [hlexeme, writtenAs_of_ne (by simp), hvalue, isWord_spelling]
      | identifier => rw [hlexeme, writtenAs_of_ne (by simp), hvalue.1]
      | _ => simp [Kind.isKeyword] at hkind
    obtain ⟨x, more, rfl, hx, hmore⟩ := exists_of_isWord hword
    have hlonger : ∀ d ∈ more ++ [c], isIdentContinue d = true := by
      intro d hd
      rcases List.mem_append.mp hd with hd | hd
      · exact hmore d hd
      · rwa [List.mem_singleton.mp hd]
    exact ⟨_, _, .word hx hlonger⟩
  · rw [writtenAs_of_ne (by simp)] at hlexeme
    have hlonger : ∀ d ∈ lexeme ++ [c], isDigit d = true := by
      intro d hd
      rcases List.mem_append.mp hd with hd | hd
      · exact hvalue.2 d (hlexeme ▸ hd)
      · rwa [List.mem_singleton.mp hd]
    exact ⟨_, _, .number (by simp) hlonger⟩
  · have hsymbols : ∀ s ∈ openers, ∃ t ∈ symbols, t.1 = s ++ ['='] := by decide
    obtain ⟨⟨longer, kind'⟩, hmem, rfl⟩ := hsymbols lexeme hopener
    exact ⟨kind', _, .symbol hmem⟩

/-- The token at the front of a text stops where its lexeme ends. -/
theorem Front.stops {lexeme value rest rest' : List Char} {kind : Kind}
    (hfront : Front (lexeme ++ rest) kind value rest') (h : Spells lexeme kind value) :
    Stops lexeme kind rest ∧ rest' = rest := by
  cases hfront with
  | @lexeme lexeme' _ _ _ htext hlongest =>
    obtain rfl : lexeme' = lexeme :=
      (spells_iff.mp hlongest.spells).2.trans (spells_iff.mp h).2.symm
    refine ⟨?_, (List.append_cancel_left htext).symm⟩
    intro c hc hreads
    obtain ⟨rest, rfl⟩ := List.head?_eq_some_iff.mp hc
    obtain ⟨kind', value', hlonger⟩ := h.append_of_readsOn hreads
    have hlength := hlongest.longest _ _ _ hlonger ⟨rest, by simp⟩
    rw [List.length_append, List.length_singleton] at hlength
    omega
  | unclosed _ hnone | stray _ _ hnone => exact absurd (List.prefix_append _ _) (hnone _ _ _ h)

/-! ## Neighbours -/

/-- Two items fuse just if the first one reads on into the second. -/
theorem fuses_iff (left right : Item) :
    Fuses left right ↔ ∃ c ∈ right.text.head?, ReadsOn left.text left.kind c := by
  obtain ⟨x, more, htext, -⟩ := right.spells.exists_cons
  have hspells := right.spells
  rw [htext] at hspells
  -- Of the items, only numbers start with a digit.
  have hdigit : right.kind = .number ↔ isDigit x = true := by
    constructor
    · intro hkind
      have hvalue := right.isValue
      rw [Item.text, writtenAs_of_ne (by simp [hkind])] at htext
      rw [hkind, htext] at hvalue
      exact hvalue.2 x List.mem_cons_self
    · intro hx
      exact (hspells.of_isDigit hx).1
  simp [Fuses, ReadsOn, htext, hdigit]

/-- An item stops before the rendering of others just if it does not fuse with the next one, or if
blanks come between the two. -/
theorem Item.stops_render_iff (i : Item) (parts : List (Blanks × Item)) (tail : Blanks) :
    Stops i.text i.kind (render parts tail) ↔
      ∀ q ∈ parts.head?, q.1.chars = [] → ¬ Fuses i q.2 := by
  have hblank : ∀ (blanks : Blanks) (text : List Char), blanks.chars ≠ [] →
      Stops i.text i.kind (blanks.chars ++ text) := by
    intro blanks text hne c hc
    obtain ⟨d, more, hchars⟩ := List.exists_cons_of_ne_nil hne
    obtain rfl : d = c := by simpa [hchars] using hc
    exact not_readsOn_of_isBlank (blanks.blank d (by simp [hchars])) _ _
  cases parts with
  | nil =>
    refine iff_of_true ?_ (by simp)
    by_cases hne : tail.chars = []
    · simp [render, hne, Stops]
    · simpa [render] using hblank tail [] hne
  | cons q parts =>
    obtain ⟨blanks, j⟩ := q
    by_cases hne : blanks.chars = []
    · obtain ⟨x, more, htext, -⟩ := j.spells.exists_cons
      simp [render, hne, fuses_iff, Stops, htext]
    · refine iff_of_true (hblank blanks _ hne) ?_
      simp [hne]

/-! ## Whole renderings -/

/-- Separated items are read back, each without a problem. -/
theorem Separated.exists_stream {parts : List (Blanks × Item)} (h : Separated parts) (tail : Blanks)
    (before : List Char) :
    ∃ pulls, Stream before (render parts tail) pulls ∧ (∀ p ∈ pulls, p.2 = none) ∧
      pulls.map (fun p => (p.1.kind, p.1.value)) = readBack parts := by
  induction parts generalizing before with
  | nil => exact ⟨_, .done tail.blank, by simp, rfl⟩
  | cons q parts ih =>
    obtain ⟨blanks, i⟩ := q
    obtain ⟨hnext, hparts⟩ := List.isChain_cons.mp h
    obtain ⟨pulls, hstream, hnone, hback⟩ := ih hparts (before ++ blanks.chars ++ i.text)
    have hstops := (i.stops_render_iff parts tail).mpr hnext
    refine ⟨_, i.spells.stream_cons hstops blanks.blank hstream, ?_, ?_⟩
    · simpa using hnone
    · simpa [readBack] using hback

/-- Items that are read back are separated: each of them was the token at the front of the text, and
so it stopped there. -/
theorem Munch.separated {parts : List (Blanks × Item)} {tail : Blanks}
    (h : Munch (render parts tail) (readBack parts)) : Separated parts := by
  induction parts with
  | nil => exact .nil
  | cons q parts ih =>
    obtain ⟨blanks, i⟩ := q
    obtain ⟨x, more, hlexeme, hx⟩ := i.spells.exists_cons
    have hdrop : (render ((blanks, i) :: parts) tail).dropWhile isBlank =
        i.text ++ render parts tail := by
      rw [render, List.dropWhile_append_of_pos blanks.blank, hlexeme, List.cons_append,
        List.dropWhile_cons_of_neg (by simp [hx])]
    generalize hout : readBack ((blanks, i) :: parts) = out at h
    cases h with
    | done hnil => simp [hdrop, hlexeme] at hnil
    | @token _ value rest kind out hfront hrest =>
      rw [hdrop] at hfront
      obtain ⟨⟨rfl, hvalue⟩, rfl⟩ :
          (i.kind = kind ∧ String.ofList i.value = String.ofList value) ∧ readBack parts = out := by
        simpa [readBack] using hout
      obtain rfl := String.ofList_injective hvalue
      obtain ⟨hstops, rfl⟩ := hfront.stops i.spells
      exact List.isChain_cons.mpr ⟨(i.stops_render_iff parts tail).mp hstops, ih hrest⟩

/-- Items that are written down with blanks around them are read back without a problem just if no
pair that fuses stands without a blank between its items. -/
theorem tokenizeStrict_render_iff (parts : List (Blanks × Item)) (tail : Blanks) :
    (∃ tokens, tokenizeStrict (String.ofList (render parts tail)) = .ok tokens ∧
        tokens.map (fun t => (t.kind, t.value)) = readBack parts) ↔
      Separated parts := by
  have hspec := stream_spec (String.ofList (render parts tail))
  rw [String.toList_ofList] at hspec
  rw [tokenizeStrict_eq]
  constructor
  · rintro ⟨tokens, hstrict, hback⟩
    have htokens : (stream (String.ofList (render parts tail))).map Prod.fst = tokens := by
      split at hstrict
      · exact Except.ok.inj hstrict
      · cases hstrict
    have hmunch : Munch (render parts tail) (readBack parts) := by
      rw [← hback, ← htokens, List.map_map]
      exact hspec.munch
    exact hmunch.separated
  · intro hseparated
    obtain ⟨pulls, hstream, hnone, hback⟩ := hseparated.exists_stream tail []
    obtain rfl := hspec.unique hstream
    have hproblems : (stream (String.ofList (render parts tail))).filterMap Prod.snd = [] :=
      List.filterMap_eq_nil_iff.mpr hnone
    rw [hproblems]
    exact ⟨_, rfl, by rw [List.map_map]; exact hback⟩

end Lexeme
