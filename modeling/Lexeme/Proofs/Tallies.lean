import Lexeme.Command.Count
import Mathlib.Algebra.Ring.Nat
import Mathlib.Data.List.Induction
import Mathlib.Data.List.Nodup

/-!
# Tallies of tokens

A tally says how often each kind of token occurs, kinds in the order in which they first occur.
Merging two tallies gives the tally of both lists of tokens one behind the other, with that order.
It is enough to look at a single count: adding to a kind that is listed already can be put off, for
it changes no order, so the counts that are merged in can be made one token at a time.

## Main definitions

* `Counts.kinds`, `Counts.addAll`: the kinds that are listed, and counts added to counts.
* `Tally.entries`: the counts under the names of their kinds.
* `Tally.Accounts`: what a tally says about tokens.

## Main statements

* `Counts.addAll_add`: counting once more before or after counts are merged in is the same.
* `Tally.merge_ofTokens`: merging in a tally of tokens counts these tokens.
* `Tally.accounts_ofTokens`: the tally of a list of tokens is about these tokens.
* `Tally.ofTokens_homomorphism`: all of this for tallies, files and merges.
-/

namespace Lexeme

/-! ## Names of kinds -/

theorem Kind.mem_all (k : Kind) : k ∈ Kind.all := by
  cases k with
  | keyword k => cases k <;> decide
  | operator o => cases o <;> decide
  | delimiter d => cases d <;> decide
  | _ => decide

/-- No two kinds have one name. -/
theorem Kind.name_injective : Function.Injective Kind.name := by
  have hnodup : (Kind.all.map Kind.name).Nodup := by decide +kernel
  intro j k h
  exact List.inj_on_of_nodup_map hnodup j.mem_all k.mem_all h

namespace Counts

variable {j k : Kind} {m n : Nat} {counts other : Counts}

/-! ## One count -/

/-- The kinds that are listed. -/
def kinds (counts : Counts) : List Kind := counts.map Prod.fst

@[simp]
theorem kinds_nil : kinds [] = [] := rfl

@[simp]
theorem kinds_cons (p : Kind × Nat) (counts : Counts) : kinds (p :: counts) = p.1 :: kinds counts :=
  rfl

theorem add_cons_self : add k n ((k, m) :: counts) = (k, m + n) :: counts := by simp [add]

theorem add_cons_of_ne (h : j ≠ k) : add k n ((j, m) :: counts) = (j, m) :: add k n counts := by
  simp [add, h]

/-- A kind that is counted for the first time is listed last. -/
theorem kinds_add (k : Kind) (n : Nat) (counts : Counts) :
    (counts.add k n).kinds = if k ∈ counts.kinds then counts.kinds else counts.kinds ++ [k] := by
  induction counts with
  | nil => rfl
  | cons p counts ih =>
    obtain ⟨j, m⟩ := p
    by_cases hj : j = k
    · simp [hj, add_cons_self]
    · simp only [add_cons_of_ne hj, kinds_cons, ih, List.mem_cons, Ne.symm hj, false_or]
      split <;> rfl

theorem mem_kinds_add : j ∈ (counts.add k n).kinds ↔ j = k ∨ j ∈ counts.kinds := by
  rw [kinds_add]
  split <;> grind

theorem lookup_cons (j : Kind) (p : Kind × Nat) (counts : Counts) :
    List.lookup j (p :: counts) = if j = p.1 then some p.2 else counts.lookup j := by
  rw [List.lookup_cons, beq_eq_decide]
  split <;> simp_all

theorem lookup_add (j k : Kind) (n : Nat) (counts : Counts) :
    (counts.add k n).lookup j =
      if j = k then some ((counts.lookup k).getD 0 + n) else counts.lookup j := by
  induction counts with
  | nil => simp [add, lookup_cons]
  | cons p counts ih =>
    obtain ⟨i, m⟩ := p
    by_cases hi : i = k
    · subst hi
      simp only [add_cons_self, lookup_cons]
      split <;> simp
    · simp only [add_cons_of_ne hi, lookup_cons, ih, Ne.symm hi, if_false]
      grind

theorem sum_add (k : Kind) (n : Nat) (counts : Counts) :
    ((counts.add k n).map Prod.snd).sum = (counts.map Prod.snd).sum + n := by
  induction counts with
  | nil => simp [add]
  | cons p counts ih =>
    obtain ⟨j, m⟩ := p
    by_cases hj : j = k
    · subst hj
      simp only [add_cons_self, List.map_cons, List.sum_cons]
      omega
    · simp only [add_cons_of_ne hj, List.map_cons, List.sum_cons, ih]
      omega

/-! ## Counts added to counts -/

theorem add_add (k : Kind) (m n : Nat) (counts : Counts) :
    (counts.add k m).add k n = counts.add k (m + n) := by
  induction counts with
  | nil => simp [add]
  | cons p counts ih =>
    obtain ⟨j, i⟩ := p
    by_cases hj : j = k
    · subst hj
      rw [add_cons_self, add_cons_self, add_cons_self, Nat.add_assoc]
    · rw [add_cons_of_ne hj, add_cons_of_ne hj, add_cons_of_ne hj, ih]

/-- Adding to a kind that is listed can be put off, since it lists nothing. -/
theorem add_right_comm (h : k ∈ counts.kinds) (j : Kind) (m n : Nat) :
    (counts.add k n).add j m = (counts.add j m).add k n := by
  by_cases hjk : j = k
  · subst hjk
    rw [add_add, add_add, Nat.add_comm]
  induction counts with
  | nil => simp at h
  | cons p counts ih =>
    obtain ⟨i, l⟩ := p
    by_cases hk : i = k
    · subst hk
      rw [add_cons_self, add_cons_of_ne (Ne.symm hjk), add_cons_of_ne (Ne.symm hjk), add_cons_self]
    · have hmem : k ∈ kinds counts := by simpa [Ne.symm hk] using h
      rw [add_cons_of_ne hk]
      by_cases hj : i = j
      · subst hj
        rw [add_cons_self, add_cons_self, add_cons_of_ne hk]
      · rw [add_cons_of_ne hj, add_cons_of_ne hj, add_cons_of_ne hk, ih hmem]

/-- All that `other` counts, added in its order. -/
def addAll (counts other : Counts) : Counts :=
  other.foldl (fun counts (kind, n) => counts.add kind n) counts

@[simp]
theorem addAll_nil (counts : Counts) : counts.addAll [] = counts := rfl

@[simp]
theorem addAll_cons (counts : Counts) (p : Kind × Nat) (other : Counts) :
    counts.addAll (p :: other) = (counts.add p.1 p.2).addAll other := rfl

theorem addAll_add_of_mem (h : k ∈ counts.kinds) (n : Nat) (other : Counts) :
    (counts.add k n).addAll other = (counts.addAll other).add k n := by
  induction other generalizing counts with
  | nil => rfl
  | cons p other ih =>
    rw [addAll_cons, addAll_cons, add_right_comm h, ih (mem_kinds_add.mpr (.inr h))]

/-- Counting once more before or after the counts are merged in is the same. -/
theorem addAll_add (counts other : Counts) (k : Kind) (n : Nat) :
    counts.addAll (other.add k n) = (counts.addAll other).add k n := by
  induction other generalizing counts with
  | nil => rfl
  | cons p other ih =>
    obtain ⟨j, m⟩ := p
    by_cases hj : j = k
    · subst hj
      rw [add_cons_self, addAll_cons, addAll_cons, ← add_add]
      exact addAll_add_of_mem (mem_kinds_add.mpr (.inl rfl)) n other
    · rw [add_cons_of_ne hj, addAll_cons, addAll_cons, ih]

theorem addAll_assoc (a b c : Counts) : (a.addAll b).addAll c = a.addAll (b.addAll c) := by
  induction c generalizing b with
  | nil => rfl
  | cons p c ih => rw [addAll_cons, addAll_cons, ← addAll_add, ih]

end Counts

namespace Tally

/-! ## Merging -/

theorem merge_push (tally other : Tally) (t : Token) :
    tally.merge (other.push t) = (tally.merge other).push t := by
  unfold push
  split
  · rfl
  · have hcounts := tally.counts.addAll_add other.counts t.kind 1
    simp only [merge, mk.injEq, Nat.add_assoc, true_and]
    exact hcounts

theorem ofTokens_concat (file : String) (tokens : List Token) (t : Token) :
    ofTokens file (tokens ++ [t]) = (ofTokens file tokens).push t := by
  rw [ofTokens, List.foldl_append]
  rfl

/-- Merging in a tally of tokens counts these tokens. -/
theorem merge_ofTokens (tally : Tally) (file : String) (tokens : List Token) :
    tally.merge (ofTokens file tokens) = tokens.foldl push tally := by
  induction tokens using List.reverseRecOn with
  | nil => rfl
  | append_singleton tokens t ih => rw [ofTokens_concat, merge_push, ih, List.foldl_concat]

/-- The tallies of lists of tokens, all merged. -/
theorem foldl_merge_ofTokens {α : Type} (name : α → String) (tokensOf : α → List Token)
    (files : List α) (tally : Tally) :
    (files.map fun f => ofTokens (name f) (tokensOf f)).foldl merge tally =
      (files.flatMap tokensOf).foldl push tally := by
  induction files generalizing tally with
  | nil => rfl
  | cons f files ih =>
    rw [List.map_cons, List.foldl_cons, ih, merge_ofTokens, List.flatMap_cons, List.foldl_append]

/-! ## What a tally says -/

/-- The counts under the names of their kinds. -/
def entries (tally : Tally) : List (String × Nat) :=
  tally.counts.map fun (kind, n) => (kind.name, n)

/-- The names under which something is counted. -/
def names (tally : Tally) : List String := tally.entries.map Prod.fst

/-- The tally is about these tokens. -/
structure Accounts (tally : Tally) (tokens : List Token) : Prop where
  /-- All tokens but the end tokens are counted. -/
  total : tally.total = (tokens.filter fun t => t.kind ≠ .eof).length
  nodup : tally.names.Nodup
  /-- Names stand in the order in which their kinds first occur. -/
  first_seen : tally.names.Pairwise fun a b =>
    (tokens.map (·.kind.name)).idxOf a < (tokens.map (·.kind.name)).idxOf b
  /-- A kind that occurs has as many as there are tokens of it; the end of the input, and kinds that
  do not occur, are not listed. -/
  count : ∀ kind : Kind, tally.entries.lookup kind.name =
    if kind ≠ .eof ∧ kind ∈ tokens.map Token.kind then
      some (tokens.countP fun t => t.kind = kind)
    else none
  sum : (tally.entries.map Prod.snd).sum = tally.total

theorem names_eq (tally : Tally) : tally.names = tally.counts.kinds.map Kind.name := by
  simp [names, entries, Counts.kinds, Function.comp_def]

theorem lookup_entries (tally : Tally) (kind : Kind) :
    tally.entries.lookup kind.name = tally.counts.lookup kind := by
  unfold entries
  induction tally.counts with
  | nil => rfl
  | cons p counts ih =>
    have hname : (kind.name == p.1.name) = (kind == p.1) := by
      simp [beq_eq_decide, Kind.name_injective.eq_iff]
    rw [List.map_cons, List.lookup_cons, List.lookup_cons, hname, ih]

/-- Kinds are listed if they occur and are not the end of the input. -/
theorem mem_kinds_ofTokens (file : String) (tokens : List Token) (kind : Kind) :
    kind ∈ (ofTokens file tokens).counts.kinds ↔ kind ≠ .eof ∧ kind ∈ tokens.map Token.kind := by
  induction tokens using List.reverseRecOn with
  | nil => simp [ofTokens, empty]
  | append_singleton tokens t ih =>
    rw [ofTokens_concat, push]
    by_cases heof : t.isEof = true
    · rw [if_pos heof, ih]
      have hkind : t.kind = .eof := by simpa [Token.isEof] using heof
      grind
    · rw [if_neg heof, Counts.mem_kinds_add, ih]
      have hkind : t.kind ≠ .eof := by simpa [Token.isEof] using heof
      grind

/-- What is counted for a kind is the number of its tokens. -/
theorem lookup_ofTokens (file : String) (tokens : List Token) (kind : Kind) :
    (ofTokens file tokens).counts.lookup kind =
      if kind ≠ .eof ∧ kind ∈ tokens.map Token.kind then
        some (tokens.countP fun t => t.kind = kind)
      else none := by
  induction tokens using List.reverseRecOn with
  | nil => simp [ofTokens, empty]
  | append_singleton tokens t ih =>
    have hzero : kind ∉ tokens.map Token.kind → tokens.countP (fun t => t.kind = kind) = 0 := by
      intro hkind
      rw [List.countP_eq_zero]
      grind
    rw [ofTokens_concat, push]
    by_cases heof : t.isEof = true
    · have hkind : t.kind = .eof := by simpa [Token.isEof] using heof
      rw [if_pos heof, ih]
      grind
    · have hkind : t.kind ≠ .eof := by simpa [Token.isEof] using heof
      rw [if_neg heof, Counts.lookup_add, ih]
      grind

/-- Kinds are listed in the order in which they first occur. -/
theorem kinds_ofTokens_pairwise (file : String) (tokens : List Token) :
    (ofTokens file tokens).counts.kinds.Pairwise fun j k =>
      (tokens.map Token.kind).idxOf j < (tokens.map Token.kind).idxOf k := by
  induction tokens using List.reverseRecOn with
  | nil => simp [ofTokens, empty]
  | append_singleton tokens t ih =>
    have hmem := mem_kinds_ofTokens file tokens
    -- One more token changes nothing for the kinds that have occurred.
    have hold : (ofTokens file tokens).counts.kinds.Pairwise fun j k =>
        ((tokens ++ [t]).map Token.kind).idxOf j < ((tokens ++ [t]).map Token.kind).idxOf k := by
      refine ih.imp_of_mem ?_
      intro j k hj hk hlt
      rwa [List.map_append, List.idxOf_append_of_mem ((hmem j).mp hj).2,
        List.idxOf_append_of_mem ((hmem k).mp hk).2]
    rw [ofTokens_concat, push]
    split
    · exact hold
    · rename_i heof
      have hkind : t.kind ≠ .eof := by simpa [Token.isEof] using heof
      rw [Counts.kinds_add]
      split
      · exact hold
      · rename_i hnew
        have hfresh : t.kind ∉ tokens.map Token.kind := fun h => hnew ((hmem _).mpr ⟨hkind, h⟩)
        refine List.pairwise_append.mpr ⟨hold, List.pairwise_singleton _ _, ?_⟩
        intro j hj k hk
        obtain rfl := List.mem_singleton.mp hk
        have hlt := List.idxOf_lt_length_of_mem ((hmem j).mp hj).2
        rw [List.map_append, List.idxOf_append_of_mem ((hmem j).mp hj).2,
          List.idxOf_append_of_notMem hfresh]
        omega

theorem idxOf_name (tokens : List Token) (kind : Kind) :
    (tokens.map (·.kind.name)).idxOf kind.name = (tokens.map Token.kind).idxOf kind := by
  induction tokens with
  | nil => rfl
  | cons t tokens ih =>
    have hname : (t.kind.name == kind.name) = (t.kind == kind) := by
      simp [beq_eq_decide, Kind.name_injective.eq_iff]
    rw [List.map_cons, List.map_cons, List.idxOf_cons, List.idxOf_cons, hname, ih]

theorem sum_ofTokens (file : String) (tokens : List Token) :
    ((ofTokens file tokens).counts.map Prod.snd).sum = (ofTokens file tokens).total := by
  induction tokens using List.reverseRecOn with
  | nil => rfl
  | append_singleton tokens t ih =>
    rw [ofTokens_concat, push]
    split
    · exact ih
    · rw [Counts.sum_add, ih]

/-- The tally of a list of tokens is about these tokens. -/
theorem accounts_ofTokens (file : String) (tokens : List Token) :
    (ofTokens file tokens).Accounts tokens := by
  have hpairwise := kinds_ofTokens_pairwise file tokens
  refine ⟨?total, ?nodup, ?first_seen, ?count, ?sum⟩
  case total =>
    rw [total_ofTokens, List.countP_eq_length_filter]
    simp [Token.isEof]
  case nodup =>
    rw [names_eq]
    refine List.Nodup.map Kind.name_injective (hpairwise.imp ?_)
    rintro j k hlt rfl
    exact Nat.lt_irrefl _ hlt
  case first_seen =>
    rw [names_eq]
    refine List.pairwise_map.mpr (hpairwise.imp ?_)
    intro j k hlt
    rwa [idxOf_name, idxOf_name]
  case count =>
    intro kind
    rw [lookup_entries, lookup_ofTokens]
  case sum =>
    have hsum := sum_ofTokens file tokens
    rwa [entries, List.map_map]

/-- Tallying is a homomorphism from lists of tokens under concatenation to tallies under merging,
which is associative. A tally keeps its own name when another is merged in. The sum over all files
is therefore the tally of all their tokens. -/
theorem ofTokens_homomorphism :
    (∀ file tokens, (ofTokens file tokens).Accounts tokens) ∧
      (∀ file file' a b, (ofTokens file a).merge (ofTokens file' b) = ofTokens file (a ++ b)) ∧
      (∀ files : List ScannedFile,
        combinedTally (files.map fun f => ofTokens f.name f.tokens) =
          ofTokens "all files" (files.flatMap ScannedFile.tokens)) ∧
      ∀ a b c : Tally, (a.merge b).merge c = a.merge (b.merge c) := by
  refine ⟨accounts_ofTokens, ?concat, ?files, ?assoc⟩
  case concat =>
    intro file file' a b
    rw [merge_ofTokens, ofTokens, ofTokens, List.foldl_append]
  case files =>
    intro files
    exact foldl_merge_ofTokens ScannedFile.name ScannedFile.tokens files (empty "all files")
  case assoc =>
    intro a b c
    have hcounts := Counts.addAll_assoc a.counts b.counts c.counts
    simp only [merge, mk.injEq, Nat.add_assoc, true_and]
    exact hcounts

end Tally

end Lexeme
