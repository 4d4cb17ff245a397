import Lexeme.Text.CharClass
import Lexeme.Text.EscapeTable

/-!
# Disjoint character classes

The tables of code points are ascending, so that a look-up finds each code point in the range that
holds it. The tables of blanks, digits and letters have no code point in common, and the characters
of operators, delimiters and quotes are in none of them.

## Main statements

* `isBlank_iff`, `isDigit_iff`, `isIdentStart_iff`: each class is what the ranges of its table hold.
* `CodeTable.not_contains_of_apart`: a linear test for tables without a common code point.
* `not_isIdentStart_of_isDigit`: no digit starts an identifier.
* `isIdentContinue_of_isBlank`: no blank is part of a number or a word.
* `isBlank_of_mem_punctuation`, `isIdentContinue_of_mem_punctuation`: punctuation is in no class.
-/

namespace Lexeme.Text

/-! ## Ascending tables -/

/-- In each of the tables, every range starts after the one before it has ended. -/
theorem ascending_tables :
    ∀ table ∈ [blankTable, digitTable, letterTable, escapeTable], table.Ascending := by
  decide +kernel

theorem isBlank_iff {c : Char} :
    isBlank c = true ↔ ∃ range ∈ blankTable, range.1 ≤ c.toNat ∧ c.toNat ≤ range.2 :=
  CodeTable.contains_iff (ascending_tables _ (by simp))

theorem isDigit_iff {c : Char} :
    isDigit c = true ↔ ∃ range ∈ digitTable, range.1 ≤ c.toNat ∧ c.toNat ≤ range.2 :=
  CodeTable.contains_iff (ascending_tables _ (by simp))

/-- A letter, or the underscore. -/
theorem isIdentStart_iff {c : Char} : isIdentStart c = true ↔
    c = '_' ∨ ∃ range ∈ letterTable, range.1 ≤ c.toNat ∧ c.toNat ≤ range.2 := by
  rw [isIdentStart, Bool.or_eq_true, beq_iff_eq]
  exact or_congr_right (CodeTable.contains_iff (ascending_tables _ (by simp)))

/-! ## Tables without a common code point -/

namespace CodeTable

/-- Whether two tables have no code point in common: the ranges of `t` that end before a range of
`s` are left behind, and the next one must start after it. -/
def apart : CodeTable → CodeTable → Bool
  | [], _ => true
  | (first, last) :: rest, t =>
    match t.dropWhile fun range => Nat.blt range.2 first with
    | [] => true
    | range :: t => Nat.blt last range.1 && apart rest (range :: t)

/-- Ranges that end before a code point can be left out when it is looked up. -/
theorem contains_dropWhile {t : CodeTable} {first n : Nat} (hn : first ≤ n)
    (h : t.contains n = true) :
    contains (t.dropWhile fun range => Nat.blt range.2 first) n = true := by
  induction t with
  | nil => exact h
  | cons range t ih =>
    rw [List.dropWhile_cons]
    split
    · rename_i hlast
      have hlast : range.2 < first := by simpa using hlast
      apply ih
      rw [contains_cons, Bool.and_eq_true, Bool.or_eq_true] at h
      obtain ⟨-, hn' | ht⟩ := h
      · have := of_decide_eq_true hn'
        omega
      · exact ht
    · exact h

/-- Tables that are apart share no code point. Neither of them has to be ascending, since a look-up
stops at the first range that starts past the code point. -/
theorem not_contains_of_apart {s t : CodeTable} {n : Nat} (hst : apart s t = true)
    (hs : s.contains n = true) : t.contains n = false := by
  induction s generalizing t with
  | nil => simp at hs
  | cons range rest ih =>
    obtain ⟨first, last⟩ := range
    simp only [contains_cons, Bool.and_eq_true, Bool.or_eq_true, decide_eq_true_eq] at hs
    obtain ⟨hfirst, hlast⟩ := hs
    apply Bool.eq_false_iff.mpr
    intro ht
    have hdrop := contains_dropWhile hfirst ht
    unfold apart at hst
    split at hst
    · grind [contains_nil]
    · rename_i next t' heq
      rw [heq] at hdrop
      simp only [Bool.and_eq_true, Nat.blt_eq] at hst
      have hnext : next.1 ≤ n := by
        rw [contains_cons, Bool.and_eq_true] at hdrop
        exact of_decide_eq_true hdrop.1
      have hrest := ih hst.2 (hlast.resolve_left (by omega))
      simp [hrest] at hdrop

end CodeTable

theorem apart_digitTable_letterTable : digitTable.apart letterTable = true := by decide +kernel

/-- No digit starts an identifier. -/
theorem not_isIdentStart_of_isDigit {c : Char} (h : isDigit c = true) : isIdentStart c = false := by
  have hletter := CodeTable.not_contains_of_apart apart_digitTable_letterTable h
  have hunderscore : c ≠ '_' := by
    rintro rfl
    exact absurd h (by decide +kernel)
  simp [isIdentStart, hletter, hunderscore]

theorem not_isDigit_of_isIdentStart {c : Char} (h : isIdentStart c = true) : isDigit c = false := by
  apply Bool.eq_false_iff.mpr
  intro hdigit
  simp [not_isIdentStart_of_isDigit hdigit] at h

/-! ## Blanks -/

theorem apart_blankTable_letterTable : blankTable.apart letterTable = true := by decide +kernel

theorem apart_blankTable_digitTable : blankTable.apart digitTable = true := by decide +kernel

theorem isDigit_of_isBlank {c : Char} (h : isBlank c = true) : isDigit c = false :=
  CodeTable.not_contains_of_apart apart_blankTable_digitTable h

/-- No blank is part of a number or a word. -/
theorem isIdentContinue_of_isBlank {c : Char} (h : isBlank c = true) :
    isIdentContinue c = false := by
  have hletter := CodeTable.not_contains_of_apart apart_blankTable_letterTable h
  have hunderscore : c ≠ '_' := by
    rintro rfl
    exact absurd h (by decide +kernel)
  simp [isIdentContinue, isIdentStart, hletter, hunderscore, isDigit_of_isBlank h]

/-! ## Punctuation -/

/-- The characters that operators, delimiters and quotes are written with. -/
def punctuation : List Char :=
  ['=', '!', '<', '>', '&', '|', '+', '-', '*', '/', '%', ';', '{', '}', '(', ')', ',', '.', '"']

theorem ne_quote_of_not_mem_punctuation {c : Char} (h : c ∉ punctuation) : c ≠ '"' := by
  rintro rfl
  exact h (by decide)

theorem isBlank_of_mem_punctuation {c : Char} (h : c ∈ punctuation) : isBlank c = false := by
  have hall : punctuation.all (fun c => !isBlank c) = true := by decide +kernel
  simpa using List.all_eq_true.mp hall c h

theorem not_mem_punctuation_of_isBlank {c : Char} (h : isBlank c = true) : c ∉ punctuation := by
  intro hpunct
  simp [isBlank_of_mem_punctuation hpunct] at h

/-- Punctuation neither starts nor continues a number or a word. -/
theorem isIdentContinue_of_mem_punctuation {c : Char} (h : c ∈ punctuation) :
    isIdentContinue c = false := by
  have hall : punctuation.all (fun c => !isIdentContinue c) = true := by decide +kernel
  simpa using List.all_eq_true.mp hall c h

theorem isDigit_of_mem_punctuation {c : Char} (h : c ∈ punctuation) : isDigit c = false := by
  have := isIdentContinue_of_mem_punctuation h
  grind [isIdentContinue]

theorem isIdentStart_of_mem_punctuation {c : Char} (h : c ∈ punctuation) :
    isIdentStart c = false := by
  have := isIdentContinue_of_mem_punctuation h
  grind [isIdentContinue]

end Lexeme.Text
