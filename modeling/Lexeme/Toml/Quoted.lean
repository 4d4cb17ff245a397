import Lexeme.Toml.Number

/-!
# Strings in TOML

A string stands between double quotes, with escapes, or between single quotes, as it is. Three
quotes enclose a string of several lines; a line end right after them does not count.

## Main definitions

* `basicString?`, `literalString?`: what follows an opening quote.
* `string?`: any string.
-/

namespace Lexeme.Toml

/-- Characters that may stand in comments and strings: tabs and all that is no control. -/
def isPlain (c : Char) : Bool := c == '\t' || (' ' ≤ c && c != '\x7f')

def isSpace (c : Char) : Bool := c == ' ' || c == '\t'

/-- The character with a code point in hexadecimal, if there is one. -/
def charOfHex? (digits : List Char) : Option Char :=
  let code := ofDigits 16 digits
  if digits.all (isDigitOf 16) && code.isValidChar then some (Char.ofNat code) else none

/-- The escapes of one letter. -/
def shortEscape? (c : Char) : Option Char :=
  match c with
  | 'b' => some '\x08'
  | 't' => some '\t'
  | 'n' => some '\n'
  | 'f' => some '\x0c'
  | 'r' => some '\r'
  | '"' => some '"'
  | '\\' => some '\\'
  | _ => none

/-- What follows a line end in front. -/
def newlineEnd? : List Char → Option (List Char)
  | '\n' :: rest => some rest
  | '\r' :: '\n' :: rest => some rest
  | _ => none

/-- A backslash at the end of a line: what follows the line end. -/
def continuationEnd? (text : List Char) : Option (List Char) :=
  newlineEnd? (text.dropWhile isSpace)

/-- What an escape stands for, after its backslash, and what follows it. -/
def escape? : List Char → Option (Char × List Char)
  | 'u' :: a :: b :: c :: d :: rest => (charOfHex? [a, b, c, d]).map (·, rest)
  | 'U' :: a :: b :: c :: d :: e :: f :: g :: h :: rest =>
    (charOfHex? [a, b, c, d, e, f, g, h]).map (·, rest)
  | c :: rest => (shortEscape? c).map (·, rest)
  | [] => none

/-- The rest of a string of one line up to its double quote, and what follows. Escapes make steps of
several characters, so the number of steps is bounded by `fuel`. -/
def basicBody? : (fuel : Nat) → List Char → Option (List Char × List Char)
  | 0, _ => none
  | _, [] => none
  | fuel + 1, c :: rest =>
    if c = '"' then some ([], rest)
    else if c = '\\' then do
      let (x, rest) ← escape? rest
      let (body, rest) ← basicBody? fuel rest
      return (x :: body, rest)
    else if isPlain c then do
      let (body, rest) ← basicBody? fuel rest
      return (c :: body, rest)
    else none

/-- The string that follows a double quote. -/
def basicString? (text : List Char) : Option (List Char × List Char) :=
  basicBody? text.length text

/-- The string that follows a single quote. -/
def literalString? (text : List Char) : Option (List Char × List Char) :=
  let body := text.takeWhile fun c => c != '\'' && isPlain c
  match text.drop body.length with
  | '\'' :: rest => some (body, rest)
  | _ => none

/-- The blanks and line ends that a continued line skips. -/
def skipLines : List Char → List Char
  | '\r' :: '\n' :: rest => skipLines rest
  | c :: rest => if isSpace c || c == '\n' then skipLines rest else c :: rest
  | [] => []

/-- The end of a string of several lines: three quotes, before which up to two more belong to the
string. Gives those quotes and what follows. -/
def closing? (quote : Char) (text : List Char) : Option (List Char × List Char) :=
  let count := (text.takeWhile (· == quote)).length
  if 3 ≤ count then some (List.replicate (min count 5 - 3) quote, text.drop (min count 5))
  else none

/-- The rest of a string of several lines; `escapes` tells whether backslashes have a meaning. -/
def linesBody? (quote : Char) (escapes : Bool) :
    (fuel : Nat) → List Char → Option (List Char × List Char)
  | 0, _ => none
  | _, [] => none
  | fuel + 1, c :: rest =>
    match closing? quote (c :: rest) with
    | some ending => some ending
    | none =>
      if escapes && c == '\\' then
        match continuationEnd? rest with
        | some rest => linesBody? quote escapes fuel (skipLines rest)
        | none => do
          let (x, rest) ← escape? rest
          let (body, rest) ← linesBody? quote escapes fuel rest
          return (x :: body, rest)
      else
        match newlineEnd? (c :: rest) with
        | some rest => do
          let (body, rest) ← linesBody? quote escapes fuel rest
          return ('\n' :: body, rest)
        | none =>
          if isPlain c then do
            let (body, rest) ← linesBody? quote escapes fuel rest
            return (c :: body, rest)
          else none

/-- The string that follows three quotes. -/
def linesString? (quote : Char) (escapes : Bool) (text : List Char) :
    Option (List Char × List Char) :=
  let text := (newlineEnd? text).getD text
  linesBody? quote escapes text.length text

/-- A string and what follows it. -/
def string? : List Char → Option (List Char × List Char)
  | '"' :: '"' :: '"' :: rest => linesString? '"' true rest
  | '\'' :: '\'' :: '\'' :: rest => linesString? '\'' false rest
  | '"' :: rest => basicString? rest
  | '\'' :: rest => literalString? rest
  | _ => none

end Lexeme.Toml
