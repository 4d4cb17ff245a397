import Lexeme.Proofs.Listings
import Mathlib.Data.List.DropRight

/-!
# Display forms can be told apart

The display form of a token writes its value as it is, and so the value may hold all that stands
around it: quotes, parentheses, even a whole place. A display form can be read all the same if it is
taken from both ends. From the left, the name of the kind ends at the first parenthesis; from the
right, each of the three numbers ends at a character that is no digit. What is left is the value.

## Main statements

* `Text.append_decimal_inj`, `Kind.name_append_inj`: a number at the end of a text and a name at its
  start can be told apart from the rest.
* `Token.display_eq_iff`: tokens have one display form if and only if they agree.
-/

namespace Lexeme

open Text

namespace Text

variable {c : Char}

/-- Without the digits at its end, a text ends with the character before the number. -/
theorem rdropWhile_isDigit_append_decimal (hc : c.isDigit = false) (xs : List Char) (n : Nat) :
    (xs ++ c :: (decimal n).toList).rdropWhile Char.isDigit = xs ++ [c] := by
  have hdigits : ∀ d ∈ (decimal n).toList.reverse, d.isDigit = true := by
    intro d hd
    exact isDigit_of_mem_decimal (List.mem_reverse.mp hd)
  simp [List.rdropWhile, List.dropWhile_append_of_pos hdigits, hc]

/-- A number at the end of a text can be told apart from what stands before it, if that ends with a
character that is no digit. -/
theorem append_decimal_inj (hc : c.isDigit = false) {xs ys : List Char} {m n : Nat} :
    xs ++ c :: (decimal m).toList = ys ++ c :: (decimal n).toList ↔ xs = ys ∧ m = n := by
  constructor
  · intro h
    have hfront := congrArg (List.rdropWhile Char.isDigit) h
    rw [rdropWhile_isDigit_append_decimal hc, rdropWhile_isDigit_append_decimal hc] at hfront
    obtain rfl : xs = ys := List.append_cancel_right hfront
    rw [List.append_cancel_left_eq, List.cons.injEq] at h
    exact ⟨rfl, decimal_inj.mp (String.toList_injective h.2)⟩
  · rintro ⟨rfl, rfl⟩
    rfl

end Text

namespace Kind

theorem paren_not_mem_name (k : Kind) : '(' ∉ k.name.toList := by
  have hall : Kind.all.all (fun k => '(' ∉ k.name.toList) = true := by decide +kernel
  simpa using List.all_eq_true.mp hall k k.mem_all

/-- A name at the start of a text can be told apart from what stands behind it, if that starts with
a parenthesis. -/
theorem name_append_inj {k l : Kind} {xs ys : List Char} :
    k.name.toList ++ '(' :: xs = l.name.toList ++ '(' :: ys ↔ k = l ∧ xs = ys := by
  constructor
  · intro h
    have hpieces := congrArg (splitAtChar '(') h
    rw [splitAtChar_append, splitAtChar_append, splitAtChar_of_not_mem k.paren_not_mem_name,
      splitAtChar_of_not_mem l.paren_not_mem_name] at hpieces
    have hname : k.name.toList = l.name.toList := (List.cons.inj hpieces).1
    rw [hname, List.append_cancel_left_eq, List.cons.injEq] at h
    exact ⟨name_injective (String.toList_injective hname), h.2⟩
  · rintro ⟨rfl, rfl⟩
    rfl

end Kind

namespace Token

theorem toList_display (t : Token) :
    t.display.toList = t.kind.name.toList ++ '(' :: '\'' :: t.value.toList ++
      ['\'', ')', ' ', 'a', 't'] ++ ' ' :: (decimal t.span.start).toList ++
      [' ', '('] ++ 'L' :: (decimal t.span.line).toList ++
      [':'] ++ 'C' :: (decimal t.span.column).toList ++ [')'] := by
  simp [display]

/-- Two tokens have one display form if and only if they agree in their kind, their value and the
place where they start, whatever their values are. -/
theorem display_eq_iff (t u : Token) : t.display = u.display ↔ t.Agrees u := by
  constructor
  · intro h
    have htext := congrArg String.toList h
    rw [toList_display, toList_display] at htext
    -- Read from the right, the numbers come before a value that imitates them.
    obtain ⟨htext, hcolumn⟩ := (append_decimal_inj (by decide)).mp (List.append_cancel_right htext)
    obtain ⟨htext, hline⟩ := (append_decimal_inj (by decide)).mp (List.append_cancel_right htext)
    obtain ⟨htext, hstart⟩ := (append_decimal_inj (by decide)).mp (List.append_cancel_right htext)
    obtain ⟨hkind, hvalue⟩ := Kind.name_append_inj.mp (List.append_cancel_right htext)
    exact ⟨hkind, String.toList_injective (List.cons.inj hvalue).2, hstart, hline, hcolumn⟩
  · rintro ⟨hkind, hvalue, hposition, hline, hcolumn⟩
    rw [display, display, hkind, hvalue, hposition, hline, hcolumn]

end Token

end Lexeme
