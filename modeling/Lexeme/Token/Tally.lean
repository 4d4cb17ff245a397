import Lexeme.Token.Basic

/-!
# Tallies

How often each kind of token occurs. Kinds are listed in the order in which they first occur; the
end token is not counted.

## Main definitions

* `Tally.ofTokens`: the tally of a list of tokens.
* `Tally.merge`: the sum of two tallies.
* `Tally.table`, `Tally.toJson`: the written forms.
-/

namespace Lexeme

open Text

/-- Counts per kind, in order of first occurrence. -/
abbrev Counts := List (Kind × Nat)

/-- Adds `n` to the count of `k`; a kind that was not counted yet goes to the end. -/
def Counts.add (k : Kind) (n : Nat) : Counts → Counts
  | [] => [(k, n)]
  | (kind, count) :: rest =>
    if kind = k then (kind, count + n) :: rest else (kind, count) :: add k n rest

/-- The counts of the tokens of a file. -/
structure Tally where
  file : String
  total : Nat
  counts : Counts
deriving DecidableEq, Repr

namespace Tally

/-- No tokens. -/
def empty (file : String) : Tally := ⟨file, 0, []⟩

/-- Counts one more token. -/
def push (tally : Tally) (t : Token) : Tally :=
  if t.isEof then tally
  else { tally with total := tally.total + 1, counts := tally.counts.add t.kind 1 }

def ofTokens (file : String) (tokens : List Token) : Tally := tokens.foldl push (empty file)

theorem total_push (tally : Tally) (t : Token) :
    (tally.push t).total = tally.total + if t.isEof then 0 else 1 := by
  unfold push
  split <;> rfl

/-- All tokens but end tokens are counted. -/
theorem total_ofTokens (file : String) (tokens : List Token) :
    (ofTokens file tokens).total = tokens.countP fun t => !t.isEof := by
  have hfold : ∀ tally : Tally,
      (tokens.foldl push tally).total = tally.total + tokens.countP fun t => !t.isEof := by
    induction tokens with
    | nil => simp
    | cons t tokens ih =>
      intro tally
      rw [List.foldl_cons, ih, total_push, List.countP_cons, Nat.add_assoc]
      cases t.isEof <;> simp [Nat.add_comm]
  simpa [ofTokens, empty] using hfold (empty file)

/-- Adds the counts of `other`, under the name of `tally`. -/
def merge (tally other : Tally) : Tally :=
  { tally with
    total := tally.total + other.total
    counts := other.counts.foldl (fun counts (kind, n) => counts.add kind n) tally.counts }

/-- A row of the table: the name in sixteen columns, the number in eight. -/
def row (name : String) (n : Nat) : String :=
  padRight 16 name ++ " " ++ padLeft 8 ' ' (decimal n) ++ "\n"

/-- The table: a row per kind, and the total. -/
def table (tally : Tally) : String :=
  String.join (tally.counts.map fun (kind, n) => row kind.name n) ++ row "total" tally.total

def toJson (tally : Tally) : Json :=
  .object [("file", .string tally.file), ("total", .number tally.total),
    ("counts", .object (tally.counts.map fun (kind, n) => (kind.name, .number n)))]

end Tally

end Lexeme
