/-!
# Tables of code points

A property of characters is given by the ranges of code points that have it. The ranges of a table
are disjoint and ascending, so a search stops at the first range that starts past the code point.

## Main definitions

* `CodeTable`: ranges, both ends included.
* `CodeTable.contains`: the membership test.
* `CodeTable.Ascending`: every range starts after the one before it has ended.
* `CodeTable.contains_iff`: an ascending table contains what lies in one of its ranges.
-/

namespace Lexeme.Text

/-- Ranges of code points, both ends included. -/
abbrev CodeTable := List (Nat × Nat)

namespace CodeTable

/-- Whether some range holds `n`, for a table in ascending order. -/
def contains : CodeTable → Nat → Bool
  | [], _ => false
  | (first, last) :: rest, n => first ≤ n && (n ≤ last || contains rest n)

/-- All ranges lie above `bound`, are not empty, and each starts after the one before it. -/
def AscendingFrom : Nat → CodeTable → Prop
  | _, [] => True
  | bound, (first, last) :: rest => bound ≤ first ∧ first ≤ last ∧ AscendingFrom (last + 1) rest

instance decidableAscendingFrom : ∀ bound table, Decidable (AscendingFrom bound table)
  | _, [] => isTrue trivial
  | bound, (first, last) :: rest =>
    have := decidableAscendingFrom (last + 1) rest
    inferInstanceAs (Decidable (bound ≤ first ∧ first ≤ last ∧ AscendingFrom (last + 1) rest))

/-- Every range starts after the one before it has ended. -/
def Ascending (table : CodeTable) : Prop := AscendingFrom 0 table

instance (table : CodeTable) : Decidable table.Ascending := decidableAscendingFrom 0 table

@[simp]
theorem contains_nil (n : Nat) : contains [] n = false := rfl

theorem contains_cons (first last : Nat) (rest : CodeTable) (n : Nat) :
    contains ((first, last) :: rest) n = (first ≤ n && (n ≤ last || contains rest n)) := rfl

theorem AscendingFrom.mono {bound bound' : Nat} {table : CodeTable}
    (h : AscendingFrom bound' table) (hle : bound ≤ bound') : AscendingFrom bound table := by
  cases table with
  | nil => trivial
  | cons range rest => exact ⟨Nat.le_trans hle h.1, h.2⟩

theorem AscendingFrom.le_of_mem {bound : Nat} {table : CodeTable} (h : AscendingFrom bound table) :
    ∀ range ∈ table, bound ≤ range.1 := by
  induction table with
  | nil => simp
  | cons range rest ih =>
    obtain ⟨hbound, hrange, hrest⟩ := h
    have hmore := ih (hrest.mono (by omega))
    simpa [hbound] using hmore

/-- The search may stop at the first range that starts past the code point, since no later one can
hold it. -/
theorem contains_iff {table : CodeTable} (h : table.Ascending) {n : Nat} :
    table.contains n = true ↔ ∃ range ∈ table, range.1 ≤ n ∧ n ≤ range.2 := by
  have hfrom : ∀ bound, AscendingFrom bound table →
      (table.contains n = true ↔ ∃ range ∈ table, range.1 ≤ n ∧ n ≤ range.2) := by
    clear h
    induction table with
    | nil => simp
    | cons range rest ih =>
      obtain ⟨first, last⟩ := range
      rintro bound ⟨hbound, hrange, hrest⟩
      have hlater := hrest.le_of_mem
      have hmore := ih (last + 1) hrest
      simp only [contains_cons, Bool.and_eq_true, Bool.or_eq_true, decide_eq_true_eq, hmore,
        List.mem_cons, exists_eq_or_imp]
      grind
  exact hfrom 0 h

end CodeTable

end Lexeme.Text
