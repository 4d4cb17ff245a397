import Lexeme.Text.BlankTable
import Lexeme.Text.DigitTable
import Lexeme.Text.LetterTable

/-!
# Character classes

The four classes that the scanner asks for, and how a stretch of code points falls into them.

## Main definitions

* `isBlank`, `isDigit`, `isIdentStart`, `isIdentContinue`: the classes.
* `CharClasses.ofChar`: all four answers for one character.
* `classRuns`: the maximal runs of code points with the same answers.
-/

namespace Lexeme.Text

/-- White space between tokens. -/
def isBlank (c : Char) : Bool := blankTable.contains c.toNat

/-- A decimal digit of any script. -/
def isDigit (c : Char) : Bool := digitTable.contains c.toNat

/-- A letter of any script, or an underscore. -/
def isIdentStart (c : Char) : Bool := c == '_' || letterTable.contains c.toNat

/-- What an identifier may hold after its first character. -/
def isIdentContinue (c : Char) : Bool := isIdentStart c || isDigit c

/-- The classes one character belongs to. -/
structure CharClasses where
  blank : Bool
  digit : Bool
  identStart : Bool
  identContinue : Bool
deriving DecidableEq, Repr

namespace CharClasses

def ofChar (c : Char) : CharClasses :=
  let digit := isDigit c
  let identStart := isIdentStart c
  { blank := isBlank c
    digit
    identStart
    identContinue := identStart || digit }

/-- One letter for each class that holds. -/
def letters (k : CharClasses) : String :=
  String.ofList <|
    [('w', k.blank), ('d', k.digit), ('s', k.identStart), ('c', k.identContinue)].filterMap
      fun (letter, holds) => if holds then some letter else none

end CharClasses

/-- Neighbouring code points that belong to the same classes. -/
structure ClassRun where
  first : Nat
  last : Nat
  classes : CharClasses
deriving DecidableEq, Repr

/-- The character at a code point; surrogates and numbers past the last code point have none. -/
def charAt? (code : Nat) : Option Char :=
  if code.isValidChar then some (Char.ofNat code) else none

/-- The runs among the `count` code points from `code` on, `current` being the run that reaches
`code`. A number that is no character ends a run. -/
def classRunsFrom (current : Option ClassRun) (code : Nat) : Nat → List ClassRun
  | 0 => current.toList
  | count + 1 =>
    match charAt? code, current with
    | none, _ => current.toList ++ classRunsFrom none (code + 1) count
    | some c, none =>
      classRunsFrom (some ⟨code, code, CharClasses.ofChar c⟩) (code + 1) count
    | some c, some run =>
      let classes := CharClasses.ofChar c
      if classes = run.classes then
        classRunsFrom (some { run with last := code }) (code + 1) count
      else run :: classRunsFrom (some ⟨code, code, classes⟩) (code + 1) count

/-- The largest code point. -/
def lastCode : Nat := 0x10FFFF

/-- The runs of equal classes among the code points from `first` to `last`, both included. -/
def classRuns (first last : Nat) : List ClassRun :=
  classRunsFrom none first (min last lastCode + 1 - first)

end Lexeme.Text
