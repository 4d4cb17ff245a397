import Lexeme.Toml.Number

/-!
# Dates and times in TOML

A date, a time, or both, and then maybe an offset. Months have their length, a minute may have a
leap second.

## Main definitions

* `dateEnd?`, `timeEnd?`, `offsetEnd?`: what follows a date, a time or an offset.
* `isDateTime`: the texts that are a date, a time or both.
-/

namespace Lexeme.Toml

/-- The number that the two digits in front denote, if it lies between `low` and `high`. -/
def twoDigits? (low high : Nat) : List Char → Option (Nat × List Char)
  | a :: b :: rest =>
    let n := ofDigits 10 [a, b]
    if isDecimalDigit a && isDecimalDigit b && low ≤ n && n ≤ high then some (n, rest) else none
  | _ => none

def isLeapYear (year : Nat) : Bool := year % 4 == 0 && (year % 100 != 0 || year % 400 == 0)

def daysInMonth (year month : Nat) : Nat :=
  match month with
  | 2 => if isLeapYear year then 29 else 28
  | 4 | 6 | 9 | 11 => 30
  | _ => 31

/-- What follows a given character. -/
def after? (c : Char) : List Char → Option (List Char)
  | d :: rest => if d = c then some rest else none
  | [] => none

/-- What follows a date in front. -/
def dateEnd? (text : List Char) : Option (List Char) := do
  let (century, rest) ← twoDigits? 0 99 text
  let (short, rest) ← twoDigits? 0 99 rest
  let (month, rest) ← twoDigits? 1 12 (← after? '-' rest)
  let (_, rest) ← twoDigits? 1 (daysInMonth (century * 100 + short) month) (← after? '-' rest)
  return rest

/-- What follows an optional fraction of a second; a point without digits is none. -/
def fractionEnd? : List Char → Option (List Char)
  | '.' :: rest =>
    if (rest.head?.any isDecimalDigit) then some (rest.dropWhile isDecimalDigit) else none
  | text => some text

/-- What follows a time in front. -/
def timeEnd? (text : List Char) : Option (List Char) := do
  let (_, rest) ← twoDigits? 0 23 text
  let (_, rest) ← twoDigits? 0 59 (← after? ':' rest)
  let (_, rest) ← twoDigits? 0 60 (← after? ':' rest)
  fractionEnd? rest

/-- What follows an optional offset. -/
def offsetEnd? : List Char → Option (List Char)
  | 'Z' :: rest | 'z' :: rest => some rest
  | '+' :: rest | '-' :: rest => do
    let (_, rest) ← twoDigits? 0 23 rest
    let (_, rest) ← twoDigits? 0 59 (← after? ':' rest)
    return rest
  | text => some text

/-- Whether a text is a date, a time, or a date and a time divided by `T` or a space. -/
def isDateTime (text : List Char) : Bool :=
  match dateEnd? text with
  | some [] => true
  | some (divider :: rest) =>
    (divider == 'T' || divider == 't' || divider == ' ') &&
      (timeEnd? rest).bind offsetEnd? == some []
  | none => timeEnd? text == some []

end Lexeme.Toml
