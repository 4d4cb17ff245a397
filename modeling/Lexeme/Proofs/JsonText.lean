import Lexeme.Json
import Mathlib.Data.List.TakeWhile

/-!
# Indented JSON can be read in one way

The indented form of a value determines the value: a number ends before the first character that is
no digit, a string before the first quote that is not escaped, and a block where no comma follows an
item. So each of them can be told apart from any other value and from whatever is written behind it,
as long as that does not go on with a digit.

## Main definitions

* `Json.Delimits`: a written form that can be told apart from what follows it.
* `Json.unescape`: the reading of one character of a JSON string.

## Main statements

* `Json.unescape_escape`: an escaped character reads back.
* `Json.delimits_prettyAt`: the indented form can be told apart from what follows it.
* `Json.pretty_injective`: no two values have the same indented form.
-/

namespace Lexeme.Json

open Text

variable {α β : Type} {rest rest' : List Char}

/-- A number that stands before this text does not run into it. -/
def Stops (rest : List Char) : Prop := ∀ c ∈ rest.head?, c.isDigit = false

/-- `write x` can be told apart from all that follows it, and from everything else that `write`
gives. -/
def Delimits (write : α → List Char) (x : α) : Prop :=
  ∀ ⦃y rest rest'⦄, Stops rest → Stops rest' → write x ++ rest = write y ++ rest' →
    x = y ∧ rest = rest'

theorem stops_cons {c : Char} (h : c.isDigit = false) : Stops (c :: rest) := by
  simpa [Stops] using h

/-! ## Numbers -/

theorem takeWhile_decimal_append (n : Nat) (h : Stops rest) :
    ((decimal n).toList ++ rest).takeWhile Char.isDigit = (decimal n).toList := by
  have hrest : rest.takeWhile Char.isDigit = [] := by
    cases rest with
    | nil => rfl
    | cons c rest => simp [h c (by simp)]
  rw [List.takeWhile_append_of_pos fun c hc => isDigit_of_mem_decimal hc, hrest, List.append_nil]

theorem delimits_decimal (n : Nat) : Delimits (fun n => (decimal n).toList) n := by
  intro m rest rest' hrest hrest' h
  have hdigits := congrArg (List.takeWhile Char.isDigit) h
  rw [takeWhile_decimal_append n hrest, takeWhile_decimal_append m hrest'] at hdigits
  obtain rfl : n = m := decimal_inj.mp (String.toList_injective hdigits)
  exact ⟨rfl, List.append_cancel_left h⟩

/-! ## Strings -/

/-- The value of a hexadecimal digit. -/
def hexValue (c : Char) : Nat := if c.isDigit then c.toNat - 48 else c.toNat - 87

/-- The character that is meant behind a backslash, and what follows it. -/
def unescapeTail : List Char → Option (Char × List Char)
  | 'b' :: rest => some ('\x08', rest)
  | 't' :: rest => some ('\t', rest)
  | 'n' :: rest => some ('\n', rest)
  | 'f' :: rest => some ('\x0c', rest)
  | 'r' :: rest => some ('\r', rest)
  | 'u' :: x₁ :: x₂ :: x₃ :: x₄ :: rest =>
    some (Char.ofNat ([x₁, x₂, x₃, x₄].foldl (fun n x => 16 * n + hexValue x) 0), rest)
  | c :: rest => some (c, rest)
  | [] => none

/-- The character that a JSON string goes on with, and what follows it; nothing at the closing
quote. -/
def unescape : List Char → Option (Char × List Char)
  | [] => none
  | c :: rest =>
    if c = '"' then none else if c = '\\' then unescapeTail rest else some (c, rest)

theorem hexValue_foldl_of_lt : ∀ n < 0x20,
    ∃ x₁ x₂ x₃ x₄, (padLeft 4 '0' (hexadecimal n)).toList = [x₁, x₂, x₃, x₄] ∧
      [x₁, x₂, x₃, x₄].foldl (fun n x => 16 * n + hexValue x) 0 = n := by
  have hdigits : ∀ n < 0x20, (padLeft 4 '0' (hexadecimal n)).toList =
      ['0', '0', Nat.digitChar (n / 16), Nat.digitChar (n % 16)] := by decide
  have hvalue : ∀ n < 0x20, ['0', '0', Nat.digitChar (n / 16), Nat.digitChar (n % 16)].foldl
      (fun n x => 16 * n + hexValue x) 0 = n := by decide
  intro n hn
  exact ⟨_, _, _, _, hdigits n hn, hvalue n hn⟩

theorem unescape_escape (c : Char) (rest : List Char) :
    unescape ((escape c).toList ++ rest) = some (c, rest) := by
  unfold escape
  split_ifs with hc hc hc hc hc hc hc hcontrol
  iterate 7
    · rw [hc]
      rfl
  · obtain ⟨x₁, x₂, x₃, x₄, hdigits, hvalue⟩ := hexValue_foldl_of_lt c.toNat hcontrol
    rw [String.toList_append, hdigits]
    simp [unescape, unescapeTail, hvalue]
  · simp only [String.toList_singleton, List.cons_append, List.nil_append, unescape, if_false, *]

theorem flatMap_escape_unique {s t : List Char}
    (h : s.flatMap (fun c => (escape c).toList) ++ '"' :: rest =
      t.flatMap (fun c => (escape c).toList) ++ '"' :: rest') : s = t ∧ rest = rest' := by
  -- One character read on both sides tells whether both texts go on, and with what.
  have hread := congrArg unescape h
  induction s generalizing t with
  | nil =>
    cases t with
    | nil => simpa using h
    | cons c t =>
      rw [List.flatMap_cons, List.append_assoc, unescape_escape] at hread
      simp [unescape] at hread
  | cons c s ih =>
    cases t with
    | nil =>
      rw [List.flatMap_cons, List.append_assoc, unescape_escape] at hread
      simp [unescape] at hread
    | cons c' t =>
      simp only [List.flatMap_cons, List.append_assoc, unescape_escape, Option.some.injEq,
        Prod.mk.injEq] at hread
      obtain ⟨rfl, hmore⟩ := hread
      obtain ⟨rfl, hrest⟩ := ih hmore (congrArg unescape hmore)
      exact ⟨rfl, hrest⟩

theorem toList_quote (text : String) :
    (quote text).toList = '"' :: (text.toList.flatMap (fun c => (escape c).toList) ++ ['"']) := by
  simp [quote, String.toList_join, List.flatMap_map]

theorem quote_unique {s t : String} (h : (quote s).toList ++ rest = (quote t).toList ++ rest') :
    s = t ∧ rest = rest' := by
  simp only [toList_quote, List.cons_append, List.append_assoc, List.nil_append,
    List.cons.injEq, true_and] at h
  obtain ⟨htext, hrest⟩ := flatMap_escape_unique h
  exact ⟨String.toList_injective htext, hrest⟩

/-! ## Blocks -/

/-- Items behind the first one of a block. -/
def moreItems (indent : List Char) (write : α → List Char) (xs : List α) : List Char :=
  xs.flatMap fun x => ',' :: '\n' :: (indent ++ write x)

theorem stops_moreItems (indent : List Char) (write : α → List Char) (xs : List α) :
    Stops (moreItems indent write xs ++ '\n' :: rest) := by
  cases xs with
  | nil => exact stops_cons rfl
  | cons x xs => exact stops_cons rfl

theorem moreItems_unique {indent : List Char} {write : α → List Char} {xs ys : List α}
    (hxs : ∀ x ∈ xs, Delimits write x)
    (h : moreItems indent write xs ++ '\n' :: rest = moreItems indent write ys ++ '\n' :: rest') :
    xs = ys ∧ rest = rest' := by
  -- A comma comes before each item, and so the line feed at the end is none.
  induction xs generalizing ys with
  | nil =>
    cases ys with
    | nil => simpa [moreItems] using h
    | cons y ys => simp [moreItems] at h
  | cons x xs ih =>
    cases ys with
    | nil => simp [moreItems] at h
    | cons y ys =>
      have hitem : write x ++ (moreItems indent write xs ++ '\n' :: rest) =
          write y ++ (moreItems indent write ys ++ '\n' :: rest') := by
        simpa [moreItems] using h
      obtain ⟨rfl, hmore⟩ := hxs x (by simp) (stops_moreItems _ _ _) (stops_moreItems _ _ _) hitem
      obtain ⟨rfl, hrest⟩ := ih (fun x hx => hxs x (by simp [hx])) hmore
      exact ⟨rfl, hrest⟩

theorem intercalate_cons_eq_append (sep x : List Char) (xs : List (List Char)) :
    sep.intercalate (x :: xs) = x ++ xs.flatMap (sep ++ ·) := by
  induction xs generalizing x with
  | nil => simp
  | cons y ys ih => simp [List.intercalate_cons_cons, ih]

theorem toList_block_cons (left right : String) (depth : Nat) (write : α → String) (x : α)
    (xs : List α) :
    (block left right depth ((x :: xs).map write)).toList =
      left.toList ++ '\n' :: ((indentation (depth + 1)).toList ++ (write x).toList ++
        moreItems (indentation (depth + 1)).toList (fun x => (write x).toList) xs ++
        '\n' :: ((indentation depth).toList ++ right.toList)) := by
  have hsep : (",\n" : String).toList = [',', '\n'] := rfl
  have hline : ("\n" : String).toList = ['\n'] := rfl
  simp [block, moreItems, String.toList_intercalate, intercalate_cons_eq_append, hsep, hline,
    List.flatMap_map]

theorem block_unique {left right : String} {depth : Nat} {write : α → String} {xs ys : List α}
    {close : Char} (hright : right.toList = [close]) (hclose : close ≠ '\n')
    (hxs : ∀ x ∈ xs, Delimits (fun x => (write x).toList) x)
    (h : (block left right depth (xs.map write)).toList ++ rest =
      (block left right depth (ys.map write)).toList ++ rest') : xs = ys ∧ rest = rest' := by
  cases xs with
  | nil =>
    cases ys with
    | nil => simpa [block] using h
    | cons y ys =>
      rw [toList_block_cons] at h
      simp [block, hright, hclose] at h
  | cons x xs =>
    cases ys with
    | nil =>
      rw [toList_block_cons] at h
      simp [block, hright, hclose.symm] at h
    | cons y ys =>
      simp only [toList_block_cons, List.append_assoc, List.cons_append, List.append_cancel_left_eq,
        List.cons.injEq, true_and] at h
      have hitems := @moreItems_unique α _ _ (indentation (depth + 1)).toList _ _ (y :: ys) hxs
        (by simpa [moreItems] using h)
      obtain ⟨hitems, hrest⟩ := hitems
      exact ⟨hitems, by simpa using hrest⟩

/-! ## Values -/

theorem prettyItems_eq_map (depth : Nat) (items : List Json) :
    prettyItems depth items = items.map (prettyAt depth) := by
  induction items with
  | nil => simp [prettyItems]
  | cons item items ih => simp [prettyItems, ih]

/-- A field of an object. -/
def prettyField (depth : Nat) (field : String × Json) : String :=
  quote field.1 ++ ": " ++ prettyAt depth field.2

theorem prettyFields_eq_map (depth : Nat) (fields : List (String × Json)) :
    prettyFields depth fields = fields.map (prettyField depth) := by
  induction fields with
  | nil => simp [prettyFields]
  | cons field fields ih => simp [prettyFields, prettyField, ih]

theorem delimits_prettyField {depth : Nat} {field : String × Json}
    (h : Delimits (fun v => (prettyAt depth v).toList) field.2) :
    Delimits (fun f => (prettyField depth f).toList) field := by
  intro field' rest rest' hrest hrest' htext
  simp only [prettyField, String.toList_append, List.append_assoc] at htext
  obtain ⟨hkey, hvalue⟩ := quote_unique htext
  obtain ⟨hvalue, hrest⟩ := h hrest hrest' (List.append_cancel_left hvalue)
  exact ⟨Prod.ext hkey hvalue, hrest⟩

/-- The characters with which a value can begin. -/
def Begins : Json → Char → Prop
  | number _, c => c.isDigit = true
  | string _, c => c = '"'
  | array _, c => c = '['
  | object _, c => c = '\x7b'

theorem exists_toList_block (left right : String) (depth : Nat) (items : List String) :
    ∃ cs, (block left right depth items).toList = left.toList ++ cs := by
  unfold block
  split <;> exact ⟨_, by simp only [String.toList_append, List.append_assoc]; rfl⟩

theorem exists_begins (depth : Nat) (v : Json) :
    ∃ c cs, (prettyAt depth v).toList = c :: cs ∧ v.Begins c := by
  cases v with
  | number n =>
    cases hdigits : (decimal n).toList with
    | nil => exact absurd hdigits (by simp [decimal])
    | cons c cs =>
      refine ⟨c, cs, by rw [prettyAt, hdigits], ?_⟩
      exact isDigit_of_mem_decimal (by rw [hdigits]; exact List.mem_cons_self)
  | string s => exact ⟨_, _, by rw [prettyAt, toList_quote], rfl⟩
  | array items =>
    obtain ⟨cs, hcs⟩ := exists_toList_block "[" "]" depth (prettyItems (depth + 1) items)
    exact ⟨'[', cs, by rw [prettyAt, hcs]; rfl, rfl⟩
  | object fields =>
    obtain ⟨cs, hcs⟩ := exists_toList_block "\x7b" "\x7d" depth (prettyFields (depth + 1) fields)
    exact ⟨'\x7b', cs, by rw [prettyAt, hcs]; rfl, rfl⟩

theorem exists_begins_of_eq {depth : Nat} {v w : Json}
    (h : (prettyAt depth v).toList ++ rest = (prettyAt depth w).toList ++ rest') :
    ∃ c, v.Begins c ∧ w.Begins c := by
  obtain ⟨c, cs, hv, hc⟩ := exists_begins depth v
  obtain ⟨c', cs', hw, hc'⟩ := exists_begins depth w
  rw [hv, hw] at h
  obtain ⟨rfl, -⟩ := List.cons.inj h
  exact ⟨c, hc, hc'⟩

theorem delimits_number (depth n : Nat) :
    Delimits (fun v => (prettyAt depth v).toList) (.number n) := by
  intro w rest rest' hrest hrest' h
  obtain ⟨c, hc, hc'⟩ := exists_begins_of_eq h
  cases w with
  | number m =>
    simp only [prettyAt] at h
    obtain ⟨rfl, heq⟩ := delimits_decimal n hrest hrest' h
    exact ⟨rfl, heq⟩
  | _ => simp_all [Begins]

theorem delimits_string (depth : Nat) (s : String) :
    Delimits (fun v => (prettyAt depth v).toList) (.string s) := by
  intro w rest rest' hrest hrest' h
  obtain ⟨c, hc, hc'⟩ := exists_begins_of_eq h
  cases w with
  | string t =>
    simp only [prettyAt] at h
    obtain ⟨rfl, heq⟩ := quote_unique h
    exact ⟨rfl, heq⟩
  | _ => simp_all [Begins]

theorem delimits_array {depth : Nat} {items : List Json}
    (hitems : ∀ v ∈ items, Delimits (fun v => (prettyAt (depth + 1) v).toList) v) :
    Delimits (fun v => (prettyAt depth v).toList) (.array items) := by
  intro w rest rest' hrest hrest' h
  obtain ⟨c, hc, hc'⟩ := exists_begins_of_eq h
  cases w with
  | array items' =>
    simp only [prettyAt, prettyItems_eq_map] at h
    obtain ⟨rfl, heq⟩ := block_unique rfl (by decide) hitems h
    exact ⟨rfl, heq⟩
  | _ => simp_all [Begins]

theorem delimits_object {depth : Nat} {fields : List (String × Json)}
    (hfields : ∀ f ∈ fields, Delimits (fun v => (prettyAt (depth + 1) v).toList) f.2) :
    Delimits (fun v => (prettyAt depth v).toList) (.object fields) := by
  intro w rest rest' hrest hrest' h
  obtain ⟨c, hc, hc'⟩ := exists_begins_of_eq h
  cases w with
  | object fields' =>
    simp only [prettyAt, prettyFields_eq_map] at h
    obtain ⟨rfl, heq⟩ := block_unique rfl (by decide)
      (fun f hf => delimits_prettyField (hfields f hf)) h
    exact ⟨rfl, heq⟩
  | _ => simp_all [Begins]

theorem delimits_prettyAt (depth : Nat) (v : Json) :
    Delimits (fun w => (prettyAt depth w).toList) v := by
  match v with
  | number n => exact delimits_number depth n
  | string s => exact delimits_string depth s
  | array items => exact delimits_array fun item hitem => delimits_prettyAt (depth + 1) item
  | object fields => exact delimits_object fun f hf => delimits_prettyAt (depth + 1) f.2
termination_by sizeOf v
decreasing_by
  · have hsize := List.sizeOf_lt_of_mem hitem
    simp only [array.sizeOf_spec]
    omega
  · have hsize := List.sizeOf_lt_of_mem hf
    obtain ⟨key, value⟩ := f
    simp only [object.sizeOf_spec, Prod.mk.sizeOf_spec] at hsize ⊢
    omega

theorem pretty_injective : Function.Injective pretty := by
  intro v w h
  have hstops : Stops [] := by simp [Stops]
  have htext := congrArg String.toList h
  simp only [pretty] at htext
  exact (delimits_prettyAt 0 v hstops hstops (by simpa using htext)).1

end Lexeme.Json
