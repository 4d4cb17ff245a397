/-!
# Splitting text

The stretches of a text between the occurrences of one character, and where a stretch ends.
-/

namespace Lexeme.Text

/-- Where a stretch of characters with a property ends, the next character does not have it. -/
theorem head?_dropWhile_eq_false (p : Char → Bool) (cs : List Char) :
    ∀ c ∈ (cs.dropWhile p).head?, p c = false := by
  intro c hc
  have hstop := List.head?_dropWhile_not p cs
  rw [Option.mem_def.mp hc] at hstop
  simpa using hstop

/-- A stretch without `sep` ends at `sep`, if it ends before the text does. -/
theorem eq_of_dropWhile_eq_cons {sep c : Char} {cs rest : List Char}
    (h : cs.dropWhile (· != sep) = c :: rest) : c = sep := by
  have hstop := head?_dropWhile_eq_false (· != sep) cs c (by rw [h]; rfl)
  simpa using hstop

/-- The stretches between occurrences of `sep`; there is always at least one. -/
def splitAtChar (sep : Char) : List Char → List (List Char)
  | [] => [[]]
  | c :: cs =>
    if c = sep then [] :: splitAtChar sep cs
    else
      match splitAtChar sep cs with
      | [] => [[c]]
      | first :: rest => (c :: first) :: rest

theorem splitAtChar_ne_nil (sep : Char) (cs : List Char) : splitAtChar sep cs ≠ [] := by
  fun_cases splitAtChar sep cs <;> simp_all

theorem splitAtChar_cons_self (sep : Char) (cs : List Char) :
    splitAtChar sep (sep :: cs) = [] :: splitAtChar sep cs := by simp [splitAtChar]

theorem splitAtChar_cons_of_ne {sep c : Char} (hc : c ≠ sep) {cs first : List Char}
    {rest : List (List Char)} (h : splitAtChar sep cs = first :: rest) :
    splitAtChar sep (c :: cs) = (c :: first) :: rest := by simp [splitAtChar, hc, h]

/-- A text is split at a separator by splitting what stands on both sides of it. -/
theorem splitAtChar_append (sep : Char) (before after : List Char) :
    splitAtChar sep (before ++ sep :: after) =
      splitAtChar sep before ++ splitAtChar sep after := by
  induction before with
  | nil => exact splitAtChar_cons_self sep after
  | cons c cs ih =>
    by_cases hc : c = sep
    · subst hc
      rw [List.cons_append, splitAtChar_cons_self, splitAtChar_cons_self, ih, List.cons_append]
    · cases h : splitAtChar sep cs with
      | nil => exact absurd h (splitAtChar_ne_nil sep cs)
      | cons first rest =>
        rw [h, List.cons_append] at ih
        rw [List.cons_append, splitAtChar_cons_of_ne hc ih, splitAtChar_cons_of_ne hc h,
          List.cons_append]

theorem splitAtChar_of_not_mem {sep : Char} {cs : List Char} (h : sep ∉ cs) :
    splitAtChar sep cs = [cs] := by
  induction cs with
  | nil => rfl
  | cons c cs ih =>
    simp only [List.mem_cons, not_or] at h
    exact splitAtChar_cons_of_ne (Ne.symm h.1) (ih h.2)

theorem length_splitAtChar (sep : Char) (cs : List Char) :
    (splitAtChar sep cs).length = cs.count sep + 1 := by
  induction cs with
  | nil => rfl
  | cons c cs ih =>
    by_cases hc : c = sep
    · subst hc
      rw [splitAtChar_cons_self, List.length_cons, ih, List.count_cons_self]
    · cases h : splitAtChar sep cs with
      | nil => exact absurd h (splitAtChar_ne_nil sep cs)
      | cons first rest =>
        rw [h, List.length_cons] at ih
        rw [splitAtChar_cons_of_ne hc h, List.length_cons, ih, List.count_cons_of_ne hc]

end Lexeme.Text
