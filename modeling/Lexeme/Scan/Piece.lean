import Lexeme.Scan.Problem
import Lexeme.Text.Bytes
import Lexeme.Text.CharClass
import Lexeme.Text.Split
import Lexeme.Token.Kind

/-!
# Pieces

A piece is what one token takes from the front of a text that does not start with a blank. Numbers
and words take as much as they can; a string literal takes all up to the next quote; operators
prefer their longer form. What starts no token is taken as an identifier of one character, and a
string literal without a closing quote takes the rest; both are marked with their flaw.

## Main definitions

* `Piece`: kind, value, the text taken, the text left, and the flaw if there is one.
* `Piece.cut`: the piece at the front of a text.
* `Piece.taken_append_rest`: cutting loses nothing.
-/

namespace Lexeme

open Text

/-- What one token takes from the front of a text. -/
structure Piece where
  kind : Kind
  value : List Char
  taken : List Char
  rest : List Char
  flaw : Option Flaw
deriving DecidableEq, Repr

namespace Piece

/-- A piece whose value is all that it takes. -/
def plain (kind : Kind) (taken rest : List Char) : Piece := ⟨kind, taken, taken, rest, none⟩

/-- `first` and the characters after it that satisfy `p`. -/
def run (kindOf : List Char → Kind) (p : Char → Bool) (first : Char) (text : List Char) : Piece :=
  let taken := first :: text.takeWhile p
  plain (kindOf taken) taken (text.dropWhile p)

/-- A word is a keyword if it is spelled like one, and an identifier otherwise. -/
def wordKind (word : List Char) : Kind :=
  match Keyword.ofSpelling? (String.ofList word) with
  | some k => .keyword k
  | none => .identifier

/-- What follows an opening quote: the text up to the next quote, or all of it if there is none. -/
def string (text : List Char) : Piece :=
  let inner := text.takeWhile (· != '"')
  match text.dropWhile (· != '"') with
  | _ :: rest => ⟨.stringLiteral, inner, '"' :: (inner ++ ['"']), rest, none⟩
  | [] => ⟨.stringLiteral, inner, '"' :: inner, [], some .unterminatedString⟩

/-- A character that starts no token, taken as an identifier. -/
def stray (c : Char) (text : List Char) : Piece :=
  ⟨.identifier, [c], [c], text, some (.unexpectedCharacter c)⟩

/-- The operators that start with `c`, alone and with a following equals sign. -/
def equalsPair (c : Char) : Option (Operator × Operator) :=
  match c with
  | '=' => some (.assign, .equals)
  | '!' => some (.not, .notEquals)
  | '<' => some (.less, .lessEqual)
  | '>' => some (.greater, .greaterEqual)
  | _ => none

/-- The operator that is written `c` twice; `c` alone is none. -/
def doubled (c : Char) : Option Operator :=
  match c with
  | '&' => some .and
  | '|' => some .or
  | _ => none

/-- The operators and delimiters that are one character and never part of a longer one. -/
def single (c : Char) : Option Kind :=
  match c with
  | '+' => some (.operator .plus)
  | '-' => some (.operator .minus)
  | '*' => some (.operator .multiply)
  | '/' => some (.operator .divide)
  | '%' => some (.operator .modulo)
  | ';' => some (.delimiter .semicolon)
  | '{' => some (.delimiter .leftBrace)
  | '}' => some (.delimiter .rightBrace)
  | '(' => some (.delimiter .leftParen)
  | ')' => some (.delimiter .rightParen)
  | ',' => some (.delimiter .comma)
  | '.' => some (.delimiter .dot)
  | _ => none

/-- `second` with both characters if `follow` comes next, and otherwise what `first` makes of the
one character `c`. -/
def paired (c follow : Char) (second : Operator) (first : List Char → Piece) (text : List Char) :
    Piece :=
  match text with
  | d :: rest => if d = follow then plain (.operator second) [c, d] rest else first text
  | [] => first text

/-- The piece at the front of the text `c :: text`, where `c` is no blank. -/
def cut (c : Char) (text : List Char) : Piece :=
  if isDigit c then run (fun _ => .number) isDigit c text
  else if c = '"' then string text
  else
    match equalsPair c with
    | some (alone, equal) => paired c '=' equal (plain (.operator alone) [c]) text
    | none =>
      match doubled c with
      | some operator => paired c c operator (stray c) text
      | none =>
        match single c with
        | some kind => plain kind [c] text
        | none =>
          if isIdentStart c then run wordKind isIdentContinue c text else stray c text

/-- Nothing is lost between the text taken and the text left. -/
theorem taken_append_rest (c : Char) (text : List Char) :
    (cut c text).taken ++ (cut c text).rest = c :: text := by
  have run_eq : ∀ kindOf p, (run kindOf p c text).taken ++ (run kindOf p c text).rest = c :: text :=
    fun kindOf p => by simp [run, plain, List.takeWhile_append_dropWhile]
  have paired_eq : ∀ follow second (first : List Char → Piece),
      (first text).taken ++ (first text).rest = c :: text →
      (paired c follow second first text).taken ++ (paired c follow second first text).rest =
        c :: text := by
    intro follow second first h
    unfold paired
    split
    · split <;> simp_all [plain]
    · exact h
  have string_eq : c = '"' → (string text).taken ++ (string text).rest = c :: text := by
    rintro rfl
    have h := List.takeWhile_append_dropWhile (p := (· != '"')) (l := text)
    unfold string
    split
    · rename_i d rest hd
      obtain rfl : d = '"' := eq_of_dropWhile_eq_cons hd
      simp_all
    · simp_all
  unfold cut
  split
  · exact run_eq _ _
  split
  · exact string_eq ‹_›
  split
  · exact paired_eq _ _ _ (by simp [plain])
  split
  · exact paired_eq _ _ _ (by simp [stray])
  split
  · simp [plain]
  split
  · exact run_eq _ _
  · simp [stray]

theorem taken_string_ne_nil (text : List Char) : (string text).taken ≠ [] := by
  unfold string
  split <;> simp

theorem taken_paired_ne_nil {c follow : Char} {second : Operator} {first : List Char → Piece}
    {text : List Char} (h : (first text).taken ≠ []) :
    (paired c follow second first text).taken ≠ [] := by
  unfold paired
  split
  · split
    · simp [plain]
    · exact h
  · exact h

/-- Every piece takes at least one character. -/
theorem taken_ne_nil (c : Char) (text : List Char) : (cut c text).taken ≠ [] := by
  unfold cut
  split
  · simp [run, plain]
  split
  · exact taken_string_ne_nil text
  split
  · exact taken_paired_ne_nil (by simp [plain])
  split
  · exact taken_paired_ne_nil (by simp [stray])
  split
  · simp [plain]
  split
  · simp [run, plain]
  · simp [stray]

end Piece

end Lexeme
