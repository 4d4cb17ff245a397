import Lexeme.Text.Split

/-!
# Numbers in TOML

Integers are decimal with an optional sign, or unsigned in base 16, 8 or 2, and fit in 64 bits.
Floats have a fraction or an exponent. Single underscores may divide digits.

## Main definitions

* `integer?`: the value of an integer.
* `isFloat`: the spellings of floats.
-/

namespace Lexeme.Toml

open Text

def isDecimalDigit (c : Char) : Bool := '0' ≤ c && c ≤ '9'

/-- The value of a digit in any base up to 16. -/
def digitValue? (c : Char) : Option Nat :=
  if isDecimalDigit c then some (c.toNat - '0'.toNat)
  else if 'a' ≤ c && c ≤ 'f' then some (c.toNat - 'a'.toNat + 10)
  else if 'A' ≤ c && c ≤ 'F' then some (c.toNat - 'A'.toNat + 10)
  else none

/-- The digits of a base. -/
def isDigitOf (base : Nat) (c : Char) : Bool := (digitValue? c).any (· < base)

/-- The digits of a text in which single underscores may stand between digits. -/
def digits? (base : Nat) (text : List Char) : Option (List Char) :=
  let groups := splitAtChar '_' text
  if groups.all fun g => !g.isEmpty && g.all (isDigitOf base) then some groups.flatten else none

/-- The number that digits denote. -/
def ofDigits (base : Nat) (digits : List Char) : Nat :=
  digits.foldl (fun n c => n * base + (digitValue? c).getD 0) 0

/-- The digits of a decimal number without superfluous zeros in front. -/
def plainDigits? (text : List Char) : Option (List Char) := do
  let digits ← digits? 10 text
  if digits.length > 1 && digits.head? == some '0' then none else some digits

/-- A sign and what follows it; without a sign the number is not negative. -/
def splitSign : List Char → Bool × List Char
  | '+' :: rest => (false, rest)
  | '-' :: rest => (true, rest)
  | text => (false, text)

/-- The least integer is `-int64Bound`, the greatest `int64Bound - 1`. -/
def int64Bound : Int := 0x8000000000000000

def inInt64 (n : Int) : Option Int := if -int64Bound ≤ n ∧ n < int64Bound then some n else none

def decimalInteger? (text : List Char) : Option Int := do
  let (negative, rest) := splitSign text
  let n := ofDigits 10 (← plainDigits? rest)
  inInt64 (if negative then -n else n)

/-- The value of an integer. -/
def integer? (text : List Char) : Option Int :=
  match text with
  | '0' :: 'x' :: rest => do inInt64 (ofDigits 16 (← digits? 16 rest))
  | '0' :: 'o' :: rest => do inInt64 (ofDigits 8 (← digits? 8 rest))
  | '0' :: 'b' :: rest => do inInt64 (ofDigits 2 (← digits? 2 rest))
  | _ => decimalInteger? text

/-- The least number that rounds to infinity in double precision. -/
def overflowBound : Nat := Nat.pow 2 1024 - Nat.pow 2 970

/-- Whether `m * 10 ^ e` is too large for a double. Numbers that are far off the bound are settled
by their order of magnitude. -/
def overflows (m : Nat) (e : Int) : Bool :=
  let magnitude := (Nat.toDigits 10 m).length + e
  if m = 0 ∨ magnitude < 300 then false
  else if 320 < magnitude then true
  else if 0 ≤ e then overflowBound ≤ m * Nat.pow 10 e.toNat
  else overflowBound * Nat.pow 10 (-e).toNat ≤ m

/-- An exponent, with an optional sign and any number of leading zeros. -/
def exponent? (text : List Char) : Option Int := do
  let (negative, rest) := splitSign text
  let n := ofDigits 10 (← digits? 10 rest)
  return if negative then -n else n

/-- A number before its exponent: the digits before and after the point, if it has one. -/
def mantissa? (text : List Char) : Option (List Char × List Char) :=
  match splitAtChar '.' text with
  | [whole] => do return (← plainDigits? whole, [])
  | [whole, fraction] => do return (← plainDigits? whole, ← digits? 10 fraction)
  | _ => none

/-- Whether a text is a float: it has a point or an exponent, or is a name of infinity or of no
number. A positive number must not be too large. -/
def isFloat (text : List Char) : Bool :=
  let (negative, rest) := splitSign text
  if rest = "inf".toList ∨ rest = "nan".toList then true
  else
    let mantissa := rest.takeWhile fun c => c != 'e' && c != 'E'
    let tail := rest.drop mantissa.length
    if tail.isEmpty && !mantissa.contains '.' then false
    else
      match mantissa? mantissa, if tail.isEmpty then some 0 else exponent? tail.tail with
      | some (whole, fraction), some e =>
        negative || !overflows (ofDigits 10 (whole ++ fraction)) (e - fraction.length)
      | _, _ => false

end Lexeme.Toml
