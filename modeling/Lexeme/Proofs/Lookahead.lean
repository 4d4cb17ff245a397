import Lexeme.Proofs.Place

/-!
# Lookahead by bytes and by characters

A cursor looks ahead by characters. Where it can, it reads the bytes instead: if no byte up to the
offset is above ASCII, each of them is a character, and the byte at the offset is the one to look
for. A character of several bytes has no ASCII byte at its start, and so it stops this reading at
every offset from its own on. Bytes are at least as many as characters, so an offset past the last
byte is past the last character.

## Main definitions

* `Text.WideUpTo`: an offset in bytes is in a character of several bytes or behind one.
* `Cursor.Sees`: lookahead is exact, whether bytes are read or not.

## Main statements

* `Cursor.getElem?_of_peekAscii?`, `Cursor.peekAscii?_eq_none_iff`: what is read off the bytes, and
  when.
* `Cursor.peek_eq`: lookahead is by characters.
* `Cursor.sees_remaining`: after any moves, lookahead sees what the remaining bytes decode to.
-/

namespace Lexeme

open Text

namespace Text

/-! ## Bytes of characters -/

theorem utf8_cons (x : Char) (cs : List Char) :
    utf8 (x :: cs) = String.utf8EncodeChar x ++ utf8 cs := rfl

/-- An ASCII character is one byte, from which it can be read. -/
theorem exists_utf8EncodeChar_of_utf8Size_eq_one {x : Char} (h : x.utf8Size = 1) :
    ∃ b : UInt8, String.utf8EncodeChar x = [b] ∧ b < 128 ∧ Char.ofNat b.toNat = x := by
  have hval : x.toNat ≤ 127 := UInt32.le_iff_toNat_le.mp (Char.utf8Size_eq_one_iff.mp h)
  have hbyte : x.val.toUInt8.toNat = x.toNat := by
    rw [UInt32.toNat_toUInt8]
    exact Nat.mod_eq_of_lt (Nat.lt_of_le_of_lt hval (by decide))
  refine ⟨_, String.utf8EncodeChar_eq_singleton h, ?_, ?_⟩
  · rw [UInt8.lt_iff_toNat_lt, hbyte]
    exact Nat.lt_succ_of_le hval
  · rw [hbyte, Char.ofNat_toNat]

theorem le_ofNat {n : Nat} (h : 128 ≤ n) (h' : n < 256) : 128 ≤ UInt8.ofNat n := by
  rw [UInt8.le_iff_toNat_le, UInt8.toNat_ofNat', Nat.mod_eq_of_lt h']
  exact h

/-- A character of several bytes has a first byte that is not ASCII. -/
theorem exists_utf8EncodeChar_of_one_lt {x : Char} (h : 1 < x.utf8Size) :
    ∃ (b : UInt8) (bs : List UInt8), String.utf8EncodeChar x = b :: bs ∧ 128 ≤ b := by
  have hval : ¬ x.val.toNat ≤ 127 := by
    intro hle
    have hone : x.utf8Size = 1 := Char.utf8Size_eq_one_iff.mpr (UInt32.le_iff_toNat_le.mpr hle)
    omega
  unfold String.utf8EncodeChar
  simp only [hval, if_false]
  -- Two, three or four bytes; the first one has 192, 224 or 240 added to it.
  split
  · exact ⟨_, _, rfl, le_ofNat (by omega) (by omega)⟩
  split
  · exact ⟨_, _, rfl, le_ofNat (by omega) (by omega)⟩
  · exact ⟨_, _, rfl, le_ofNat (by omega) (by omega)⟩

theorem utf8ByteSize_ofList (cs : List Char) :
    (String.ofList cs).utf8ByteSize = byteSize cs := by
  rw [← String.size_toByteArray, String.toByteArray_ofList]
  induction cs with
  | nil => rfl
  | cons c cs ih =>
    rw [List.utf8Encode_cons, ByteArray.size_append, ih, byteSize_cons, List.utf8Encode_singleton,
      List.size_toByteArray, String.length_utf8EncodeChar]

/-- The bytes behind a front part of a text decode to the rest. -/
theorem fromUTF8?_extract {text : String} {front rest : List Char}
    (h : text.toList = front ++ rest) :
    String.fromUTF8? (text.toUTF8.extract (byteSize front) text.toUTF8.size) =
      some (String.ofList rest) := by
  have htext : text = String.ofList front ++ String.ofList rest := by
    apply String.toList_injective
    simp [h]
  have hbytes : text.toUTF8.extract (byteSize front) text.toUTF8.size =
      (String.ofList rest).toUTF8 := by
    simp only [htext, String.toUTF8_eq_toByteArray, String.toByteArray_append]
    apply ByteArray.extract_append_eq_right
    · rw [String.size_toByteArray, utf8ByteSize_ofList]
    · exact ByteArray.size_append
  rw [hbytes, fromUTF8?_toUTF8]

/-! ## Wide characters -/

/-- A character of several bytes starts at or before the byte `offset`, so that this byte lies in
the character or behind it. -/
def WideUpTo (offset : Nat) (cs : List Char) : Prop :=
  ∃ front x more, cs = front ++ x :: more ∧ 1 < x.utf8Size ∧ byteSize front ≤ offset

theorem wideUpTo_cons_of_one_lt {x : Char} (h : 1 < x.utf8Size) (offset : Nat) (cs : List Char) :
    WideUpTo offset (x :: cs) :=
  ⟨[], x, cs, rfl, h, Nat.zero_le offset⟩

theorem not_wideUpTo_zero {x : Char} (h : x.utf8Size = 1) (cs : List Char) :
    ¬ WideUpTo 0 (x :: cs) := by
  rintro ⟨front, y, more, hcs, hy, hle⟩
  cases front with
  | nil =>
    obtain ⟨rfl, -⟩ := List.cons.inj hcs
    omega
  | cons z front =>
    have := Char.utf8Size_pos z
    simp at hle
    omega

theorem wideUpTo_cons_succ {x : Char} (h : x.utf8Size = 1) (offset : Nat) (cs : List Char) :
    WideUpTo (offset + 1) (x :: cs) ↔ WideUpTo offset cs := by
  constructor
  · rintro ⟨front, y, more, hcs, hy, hle⟩
    cases front with
    | nil =>
      obtain ⟨rfl, -⟩ := List.cons.inj hcs
      omega
    | cons z front =>
      obtain ⟨rfl, htail⟩ := List.cons.inj hcs
      rw [byteSize_cons, h] at hle
      exact ⟨front, y, more, htail, hy, by omega⟩
  · rintro ⟨front, y, more, rfl, hy, hle⟩
    refine ⟨x :: front, y, more, rfl, hy, ?_⟩
    rw [byteSize_cons, h]
    omega

end Text

namespace Cursor

/-! ## Reading bytes -/

variable {c : Cursor} {x : Char} {rest : List Char}

/-- What comes next is nothing, an ASCII character or a wide one. -/
theorem ahead_cases (c : Cursor) : c.after = [] ∨
    ∃ x rest, c.after = x :: rest ∧ (x.utf8Size = 1 ∨ 1 < x.utf8Size) := by
  cases h : c.after with
  | nil => exact .inl rfl
  | cons x rest =>
    have := Char.utf8Size_pos x
    exact .inr ⟨x, rest, rfl, by omega⟩

theorem peekAscii?_nil (h : c.after = []) (offset : Nat) : c.peekAscii? offset = none := by
  simp [peekAscii?, h, utf8]

/-- The bytes of a wide character stop the reading of bytes. -/
theorem peekAscii?_wide (h : c.after = x :: rest) (hx : 1 < x.utf8Size) (offset : Nat) :
    c.peekAscii? offset = none := by
  obtain ⟨b, bs, hbytes, hb⟩ := exists_utf8EncodeChar_of_one_lt hx
  have hnot : ¬ b < 128 := UInt8.not_lt.mpr hb
  simp [peekAscii?, h, utf8_cons, hbytes, hnot]

theorem peekAscii?_zero (h : c.after = x :: rest) (hx : x.utf8Size = 1) :
    c.peekAscii? 0 = some x := by
  obtain ⟨b, hbytes, hb, hread⟩ := exists_utf8EncodeChar_of_utf8Size_eq_one hx
  simp [peekAscii?, h, utf8_cons, hbytes, hb, hread]

/-- Behind an ASCII character, bytes are read as from the next place. -/
theorem peekAscii?_succ (h : c.after = x :: rest) (hx : x.utf8Size = 1) (offset : Nat) :
    c.peekAscii? (offset + 1) = c.advance.peekAscii? offset := by
  obtain ⟨b, hbytes, hb, -⟩ := exists_utf8EncodeChar_of_utf8Size_eq_one hx
  have hafter : c.advance.after = rest := by rw [after_advance, h, List.tail_cons]
  simp only [peekAscii?, h, hafter, utf8_cons, hbytes, List.singleton_append, List.take_succ_cons,
    List.length_cons, List.all_cons, hb, decide_true, Bool.true_and, Nat.add_right_cancel_iff]
  split
  · rename_i hfront
    have hne : (utf8 rest).take (offset + 1) ≠ [] := by
      intro hnil
      simp [hnil] at hfront
    rw [List.getLast?_cons_of_ne_nil hne]
  · rfl

/-- What is read off the bytes is the character at that offset. -/
theorem getElem?_of_peekAscii? {c : Cursor} {offset : Nat} (h : c.peekAscii? offset = some x) :
    c.after[offset]? = some x := by
  obtain hafter | ⟨y, rest, hafter, hy | hy⟩ := c.ahead_cases
  · simp [peekAscii?_nil hafter] at h
  · cases offset with
    | zero => simpa [hafter, peekAscii?_zero hafter hy] using h
    | succ offset =>
      rw [peekAscii?_succ hafter hy] at h
      have hnext := getElem?_of_peekAscii? h
      rwa [after_advance, List.getElem?_tail] at hnext
  · simp [peekAscii?_wide hafter hy] at h

/-- The bytes are not read at an offset past their end, in a wide character or behind one. -/
theorem peekAscii?_eq_none_iff (c : Cursor) (offset : Nat) :
    c.peekAscii? offset = none ↔ byteSize c.after ≤ offset ∨ WideUpTo offset c.after := by
  obtain hafter | ⟨x, rest, hafter, hx | hx⟩ := c.ahead_cases
  · simp [peekAscii?_nil hafter, hafter]
  · cases offset with
    | zero => simp [peekAscii?_zero hafter hx, hafter, not_wideUpTo_zero hx, hx]
    | succ offset =>
      have hnext := peekAscii?_eq_none_iff c.advance offset
      rw [after_advance, hafter, List.tail_cons] at hnext
      rw [peekAscii?_succ hafter hx, hnext, hafter, wideUpTo_cons_succ hx, byteSize_cons, hx,
        Nat.add_comm 1, Nat.add_le_add_iff_right]
  · simp [peekAscii?_wide hafter hx, hafter, wideUpTo_cons_of_one_lt hx]

/-- Lookahead is by characters, however wide they are. -/
theorem peek_eq (c : Cursor) (offset : Nat) : c.peek offset = c.after[offset]?.getD '\x00' := by
  unfold peek
  split
  · rename_i x h
    rw [getElem?_of_peekAscii? h, Option.getD_some]
  · rfl

/-! ## The remaining text -/

/-- With `rest` ahead, lookahead gives its characters, and NUL behind them. The bytes are read at
the offsets before their end up to which there are ASCII characters only, and then give the same. -/
structure Sees (c : Cursor) (rest : List Char) : Prop where
  peek_eq : ∀ offset, c.peek offset = rest[offset]?.getD '\x00'
  read : ∀ offset x, c.peekAscii? offset = some x → rest[offset]? = some x
  unread_iff : ∀ offset, c.peekAscii? offset = none ↔
    byteSize rest ≤ offset ∨ WideUpTo offset rest

/-- After any moves through a text, the bytes from the position of the cursor on can be decoded, and
lookahead sees the characters that they decode to. -/
theorem sees_remaining (text : String) (ms : List Move) :
    ∃ rest, String.fromUTF8? (text.toUTF8.extract ((ofString text).moves ms).position
        text.toUTF8.size) = some rest ∧ ((ofString text).moves ms).Sees rest.toList := by
  have hlocated := (located_ofList text.toList).moves ms
  have hsource : ((ofString text).moves ms).source = text.toList := source_moves _ ms
  have hposition : ((ofString text).moves ms).position =
      byteSize ((ofString text).moves ms).before.reverse := by
    rw [byteSize_reverse]
    exact hlocated.position
  refine ⟨String.ofList ((ofString text).moves ms).after, ?_, ?_⟩
  · rw [hposition]
    exact fromUTF8?_extract hsource.symm
  · rw [String.toList_ofList]
    exact ⟨Cursor.peek_eq _, fun _ _ => getElem?_of_peekAscii?, peekAscii?_eq_none_iff _⟩

end Cursor

end Lexeme
