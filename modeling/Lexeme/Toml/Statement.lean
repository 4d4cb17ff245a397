import Lexeme.Toml.Date
import Lexeme.Toml.Quoted
import Lexeme.Toml.Value

/-!
# Reading TOML

A document is a list of statements, one a line: a key with its value, or the head of a table or of
an array of tables. Inline tables are built here, as their keys may be dotted too.

## Main definitions

* `keyPath?`: dotted keys.
* `value?`: any value, nested up to a limit.
* `Statement`, `statements?`: the lines of a document.
-/

namespace Lexeme.Toml

/-- How many arrays and inline tables may stand inside each other, and how many keys a dotted key
may have. -/
def nestingLimit : Nat := 79

/-! ## Keys -/

def isBareKeyChar (c : Char) : Bool :=
  isDecimalDigit c || ('a' ≤ c && c ≤ 'z') || ('A' ≤ c && c ≤ 'Z') || c == '_' || c == '-'

/-- One key, bare or quoted, and what follows it. -/
def simpleKey? : List Char → Option (String × List Char)
  | '"' :: rest => (basicString? rest).map fun (key, rest) => (String.ofList key, rest)
  | '\'' :: rest => (literalString? rest).map fun (key, rest) => (String.ofList key, rest)
  | text =>
    let key := text.takeWhile isBareKeyChar
    if key.isEmpty then none else some (String.ofList key, text.drop key.length)

/-- Keys divided by dots, with blanks around them. -/
def keysFrom? : (fuel : Nat) → List Char → Option (List String × List Char)
  | 0, _ => none
  | fuel + 1, text => do
    let (key, rest) ← simpleKey? (text.dropWhile isSpace)
    match rest.dropWhile isSpace with
    | '.' :: rest => do
      let (keys, rest) ← keysFrom? fuel rest
      return (key :: keys, rest)
    | rest => return ([key], rest)

/-- A dotted key, with the blanks around it, and what follows. -/
def keyPath? (text : List Char) : Option (List String × List Char) := do
  let (keys, rest) ← keysFrom? text.length text
  if keys.length ≤ nestingLimit then some (keys, rest) else none

/-! ## Trivia -/

/-- Skips blanks, line ends and comments; `comment` tells whether a comment is being skipped. -/
def skipTrivia (comment : Bool) : List Char → List Char
  | [] => []
  | c :: rest =>
    if c = '\n' ∨ c = '\r' ∧ rest.head? = some '\n' then skipTrivia false rest
    else if comment && isPlain c then skipTrivia true rest
    else if !comment && c == '#' then skipTrivia true rest
    else if !comment && isSpace c then skipTrivia false rest
    else c :: rest

/-- What follows a line that has nothing more than blanks and a comment. -/
def lineEnd? (text : List Char) : Option (List Char) :=
  let text := text.dropWhile isSpace
  let text :=
    match text with
    | '#' :: rest => rest.dropWhile isPlain
    | _ => text
  if text.isEmpty then some [] else newlineEnd? text

/-! ## Values -/

/-- The characters of numbers, dates and truth values. -/
def isScalarChar (c : Char) : Bool := isBareKeyChar c || c == '+' || c == '.' || c == ':'

/-- A number, a date or a truth value and what follows it. A date may go on with a time after one
space. -/
def scalar? (text : List Char) : Option (Value × List Char) :=
  let word := text.takeWhile isScalarChar
  let rest := text.drop word.length
  if word = "true".toList then some (.boolean true, rest)
  else if word = "false".toList then some (.boolean false, rest)
  else
    match integer? word with
    | some n => some (.integer n, rest)
    | none =>
      if isFloat word then some (.float (String.ofList word), rest)
      else if isDateTime word then
        let time := rest.tail.takeWhile isScalarChar
        let long := word ++ ' ' :: time
        if rest.head? = some ' ' ∧ isDateTime long then
          some (.date (String.ofList long), rest.tail.drop time.length)
        else some (.date (String.ofList word), rest)
      else none

/-- A reader of values. -/
abbrev ValueReader := List Char → Option (Value × List Char)

/-- The items of an array up to its bracket; a comma may follow the last one. -/
def arrayItems? (item? : ValueReader) : (fuel : Nat) → List Char → Option (List Value × List Char)
  | 0, _ => none
  | fuel + 1, text =>
    match skipTrivia false text with
    | ']' :: rest => some ([], rest)
    | text => do
      let (item, rest) ← item? text
      match skipTrivia false rest with
      | ']' :: rest => return ([item], rest)
      | ',' :: rest => do
        let (items, rest) ← arrayItems? item? fuel rest
        return (item :: items, rest)
      | _ => none

/-- A field of a table under construction. `dotted` marks a table that only dotted keys have made:
further dotted keys may add to it, and nothing else may. -/
inductive Field where
  | value (v : Value)
  | dotted (fields : List (String × Field))
deriving Inhabited

/-- Puts a value under a dotted key, given as its first key and the others. -/
def putField (v : Value) (key : String) (keys : List String) (fields : List (String × Field)) :
    Option (List (String × Field)) :=
  match keys with
  | [] => if fields.any (·.1 == key) then none else some (fields ++ [(key, .value v)])
  | next :: keys =>
    match fields.find? (·.1 == key) with
    | none => do return fields ++ [(key, .dotted (← putField v next keys []))]
    | some (_, .value _) => none
    | some (_, .dotted inner) => do
      let inner ← putField v next keys inner
      return fields.map fun (k, field) => if k == key then (k, .dotted inner) else (k, field)

mutual

/-- The value of a finished field. -/
def Field.toValue : Field → Value
  | .value v => v
  | .dotted fields => .table (fieldValues fields)

def fieldValues : List (String × Field) → List (String × Value)
  | [] => []
  | (key, field) :: fields => (key, field.toValue) :: fieldValues fields

end

/-- A dotted key, an equals sign and a value, with the blanks around them. -/
def pair? (value? : ValueReader) (text : List Char) :
    Option ((String × List String) × Value × List Char) := do
  let (keys, rest) ← keyPath? text
  let rest ← after? '=' rest
  let (v, rest) ← value? (rest.dropWhile isSpace)
  match keys with
  | [] => none
  | key :: keys => return ((key, keys), v, rest.dropWhile isSpace)

/-- The pairs of an inline table up to its brace, added to `fields`. -/
def tablePairs? (value? : ValueReader) :
    (fuel : Nat) → List (String × Field) → List Char → Option (List (String × Field) × List Char)
  | 0, _, _ => none
  | fuel + 1, fields, text => do
    let ((key, keys), v, rest) ← pair? value? text
    let fields ← putField v key keys fields
    match rest with
    | '}' :: rest => return (fields, rest)
    | ',' :: rest => tablePairs? value? fuel fields rest
    | _ => none

/-- The inline table that follows a brace. -/
def inlineTable? (value? : ValueReader) (text : List Char) : Option (Value × List Char) :=
  match text.dropWhile isSpace with
  | '}' :: rest => some (.table [], rest)
  | text => do
    let (fields, rest) ← tablePairs? value? text.length [] text
    return (.table (fieldValues fields), rest)

/-- A value and what follows it; `depth` is how many brackets may still be opened. -/
def value? (depth : Nat) (text : List Char) : Option (Value × List Char) :=
  match text with
  | '"' :: _ | '\'' :: _ => (string? text).map fun (s, rest) => (.string (String.ofList s), rest)
  | '[' :: rest =>
    match depth with
    | 0 => none
    | depth + 1 => do
      let (items, rest) ← arrayItems? (value? depth) rest.length rest
      return (.array items, rest)
  | '{' :: rest =>
    match depth with
    | 0 => none
    | depth + 1 => inlineTable? (value? depth) rest
  | _ => scalar? text

/-! ## Statements -/

/-- A line of a document. A key path is its first key and the others. -/
inductive Statement where
  | assign (key : String) (keys : List String) (v : Value)
  | table (key : String) (keys : List String)
  | tableArray (key : String) (keys : List String)
deriving Inhabited

/-- The head of a table between brackets, given how many there are on each side. -/
def head? (brackets : Nat) (make : String → List String → Statement) (text : List Char) :
    Option (Statement × List Char) := do
  let (keys, rest) ← keyPath? text
  if rest.take brackets = List.replicate brackets ']' then
    match keys with
    | [] => none
    | key :: keys => return (make key keys, ← lineEnd? (rest.drop brackets))
  else none

/-- The statement in front and what follows its line. -/
def statement? (text : List Char) : Option (Statement × List Char) :=
  match text with
  | '[' :: '[' :: rest => head? 2 .tableArray rest
  | '[' :: rest => head? 1 .table rest
  | _ => do
    let ((key, keys), v, rest) ← pair? (value? nestingLimit) text
    return (.assign key keys v, ← lineEnd? rest)

/-- All statements; lines may be empty. -/
def statementsFrom? : (fuel : Nat) → List Char → Option (List Statement)
  | 0, _ => none
  | fuel + 1, text =>
    match text.dropWhile isSpace with
    | [] => some []
    | '#' :: rest => do statementsFrom? fuel (← lineEnd? ('#' :: rest))
    | '\n' :: rest => statementsFrom? fuel rest
    | '\r' :: '\n' :: rest => statementsFrom? fuel rest
    | text => do
      let (statement, rest) ← statement? text
      return statement :: (← statementsFrom? fuel rest)

/-- The statements of a text. A byte order mark in front does not count. -/
def statements? (text : List Char) : Option (List Statement) :=
  let text :=
    match text with
    | '\uFEFF' :: rest => rest
    | _ => text
  statementsFrom? (text.length + 1) text

end Lexeme.Toml
