/-!
# Byte offsets

Positions in a text are counted in bytes of its UTF-8 form. A cut at an offset is possible only
between two characters.

## Main definitions

* `byteSize`, `utf8`: how many bytes a list of characters takes, and which.
* `splitAtByte`: the cut at an offset, if it falls between characters.
* `byteRange`: what lies between two offsets.
-/

namespace Lexeme.Text

/-- The number of bytes that the characters take in UTF-8. -/
def byteSize : List Char → Nat
  | [] => 0
  | c :: cs => c.utf8Size + byteSize cs

@[simp]
theorem byteSize_nil : byteSize [] = 0 := rfl

@[simp]
theorem byteSize_cons (c : Char) (cs : List Char) :
    byteSize (c :: cs) = c.utf8Size + byteSize cs := rfl

@[simp]
theorem byteSize_append (xs ys : List Char) :
    byteSize (xs ++ ys) = byteSize xs + byteSize ys := by
  induction xs with
  | nil => simp
  | cons c cs ih => simp [ih, Nat.add_assoc]

/-- The bytes of the characters in UTF-8. -/
def utf8 (cs : List Char) : List UInt8 := cs.flatMap String.utf8EncodeChar

/-- The bytes of a text decode to the text. -/
theorem fromUTF8?_toUTF8 (text : String) : String.fromUTF8? text.toUTF8 = some text := by
  rw [String.fromUTF8?, String.toUTF8_eq_toByteArray, dif_pos text.isValidUTF8]
  rfl

/-- What stands before and after the byte `offset`; nothing if the offset lies past the end or
inside a character. -/
def splitAtByte : Nat → List Char → Option (List Char × List Char)
  | 0, cs => some ([], cs)
  | _ + 1, [] => none
  | offset + 1, c :: cs =>
    if c.utf8Size ≤ offset + 1 then
      (splitAtByte (offset + 1 - c.utf8Size) cs).map fun (before, after) => (c :: before, after)
    else none

/-- The characters from byte `start` up to byte `stop`, if both lie between characters. -/
def byteRange (start stop : Nat) (cs : List Char) : Option (List Char) := do
  let (_, after) ← splitAtByte start cs
  let (range, _) ← splitAtByte (stop - start) after
  return range

/-- The characters without the last ones that satisfy `p`. -/
def trimEnd (p : Char → Bool) (cs : List Char) : List Char :=
  (cs.reverse.dropWhile p).reverse

end Lexeme.Text
