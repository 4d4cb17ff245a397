/-!
# Numbers and padding in text

Numbers are written in decimal without a sign or leading zeros, code points in lower-case
hexadecimal. Padding never cuts: a text that is already wide enough is left alone.
-/

namespace Lexeme.Text

/-- The decimal digits of `n`. -/
def decimal (n : Nat) : String := String.ofList (Nat.toDigits 10 n)

theorem decimal_eq_toString (n : Nat) : decimal n = toString n := rfl

theorem isDigit_of_mem_decimal {n : Nat} {c : Char} (h : c ∈ (decimal n).toList) :
    c.isDigit = true := by
  rw [decimal, String.toList_ofList] at h
  exact Nat.isDigit_of_mem_toDigits (by decide) (by decide) h

theorem not_mem_decimal {n : Nat} {c : Char} (h : c.isDigit = false) :
    c ∉ (decimal n).toList := by
  intro hmem
  simp [isDigit_of_mem_decimal hmem] at h

/-- The digits determine the number. -/
theorem decimal_inj {m n : Nat} : decimal m = decimal n ↔ m = n := by
  constructor
  · intro h
    have hdigits : Nat.toDigits 10 m = Nat.toDigits 10 n := String.ofList_injective h
    calc m = Nat.ofDigitChars 10 (Nat.toDigits 10 m) 0 := Nat.ofDigitChars_ten_toDigits.symm
      _ = Nat.ofDigitChars 10 (Nat.toDigits 10 n) 0 := by rw [hdigits]
      _ = n := Nat.ofDigitChars_ten_toDigits
  · rintro rfl
    rfl

/-- The lower-case hexadecimal digits of `n`. -/
def hexadecimal (n : Nat) : String := String.ofList (Nat.toDigits 16 n)

/-- The code point of a character between braces. -/
def codePointInBraces (c : Char) : String := "\\u\x7b" ++ hexadecimal c.toNat ++ "\x7d"

/-- `count` copies of one character. -/
def repeated (count : Nat) (c : Char) : String := String.ofList (List.replicate count c)

/-- `text` at the right of at least `width` characters, filled up with `fill`. -/
def padLeft (width : Nat) (fill : Char) (text : String) : String :=
  repeated (width - text.length) fill ++ text

/-- `text` at the left of at least `width` characters, filled up with spaces. -/
def padRight (width : Nat) (text : String) : String :=
  text ++ repeated (width - text.length) ' '

theorem padLeft_eq_leftpad (width : Nat) (fill : Char) (text : String) :
    padLeft width fill text = String.ofList (text.toList.leftpad width fill) := by
  simp [padLeft, repeated, List.leftpad, String.length_toList]

theorem padRight_eq_rightpad (width : Nat) (text : String) :
    padRight width text = String.ofList (text.toList.rightpad width ' ') := by
  simp [padRight, repeated, List.rightpad, String.length_toList]

end Lexeme.Text
