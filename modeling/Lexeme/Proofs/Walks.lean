import Lexeme.FileTree.Basic
import Mathlib.Data.List.Infix

/-!
# Walking through file trees

Without links, a path says by itself where it leads; the tree only decides whether one gets there.
So a walk is compared with the places on its way: it comes to a directory if directories stand at
all of them.

## Main definitions

* `Path.resolve`: the place that pieces lead to, whatever the tree is.
* `Path.way`: the places on the way there.
* `FileTree.WellFormed`: everything stands in a directory.

## Main statements

* `Path.pieces_join`: the pieces of a name in a directory.
* `FileTree.walkToDirectory_eq_ok_iff`: when a walk comes to a directory, and to which.
* `FileTree.walkToDirectory_filter`: pieces that stay in place make no difference to that.
* `FileTree.WellFormed.get?_of_isPrefix`: directories all the way above what exists.
-/

namespace Lexeme

open Text

/-- A computation of several parts succeeds if each of them does. -/
theorem bind_eq_ok_iff {ε α β : Type} {a? : Except ε α} {next : α → Except ε β} {b : β} :
    a? >>= next = .ok b ↔ ∃ a, a? = .ok a ∧ next a = .ok b := by
  cases a? with
  | error e => simp [bind, Except.bind]
  | ok a => simp [bind, Except.bind]

namespace Path

/-! ## Where paths lead -/

/-- The place reached with one more piece. -/
def step (place : Location) (piece : String) : Location :=
  if stays piece then place else if piece = ".." then place.dropLast else place ++ [piece]

/-- The place that `pieces` lead to from `base`, if nothing is in the way. -/
def resolve (base : Location) (pieces : List String) : Location := pieces.foldl step base

/-- The places on the way, from the first to the last. -/
def way (base : Location) : List String → List Location
  | [] => [base]
  | piece :: pieces => base :: way (step base piece) pieces

theorem step_of_stays {piece : String} (h : stays piece = true) (place : Location) :
    step place piece = place := by simp [step, h]

theorem step_of_name {piece : String} (h : stays piece = false) (hup : piece ≠ "..")
    (place : Location) : step place piece = place ++ [piece] := by simp [step, h, hup]

@[simp]
theorem resolve_nil (base : Location) : resolve base [] = base := rfl

@[simp]
theorem resolve_cons (base : Location) (piece : String) (pieces : List String) :
    resolve base (piece :: pieces) = resolve (step base piece) pieces := rfl

theorem resolve_concat (base : Location) (xs : List String) (x : String) :
    resolve base (xs ++ [x]) = step (resolve base xs) x := by
  rw [resolve, List.foldl_append]
  rfl

theorem resolve_filter (base : Location) (pieces : List String) :
    resolve base (pieces.filter fun piece => !stays piece) = resolve base pieces := by
  induction pieces generalizing base with
  | nil => rfl
  | cons x xs ih =>
    by_cases hx : stays x = true
    · rw [List.filter_cons_of_neg (by simp [hx]), ih, resolve_cons, step_of_stays hx]
    · rw [List.filter_cons_of_pos (by simp [hx]), resolve_cons, resolve_cons, ih]

theorem way_concat (base : Location) (xs : List String) (x : String) :
    way base (xs ++ [x]) = way base xs ++ [resolve base (xs ++ [x])] := by
  induction xs generalizing base with
  | nil => rfl
  | cons y xs ih => simp [way, ih]

theorem base_mem_way (base : Location) (xs : List String) : base ∈ way base xs := by
  cases xs <;> simp [way]

theorem resolve_mem_way (base : Location) (xs : List String) : resolve base xs ∈ way base xs := by
  induction xs generalizing base with
  | nil => simp [way]
  | cons x xs ih => exact List.mem_cons_of_mem _ (ih _)

/-- Names alone lead straight down. -/
theorem resolve_of_names {xs : List String} (hnames : ∀ x ∈ xs, stays x = false ∧ x ≠ "..")
    (base : Location) : resolve base xs = base ++ xs := by
  induction xs generalizing base with
  | nil => simp
  | cons x xs ih =>
    obtain ⟨hx, hxs⟩ := List.forall_mem_cons.mp hnames
    rw [resolve_cons, step_of_name hx.1 hx.2, ih hxs, List.append_assoc, List.singleton_append]

theorem isPrefix_of_mem_way {xs : List String} (hnames : ∀ x ∈ xs, stays x = false ∧ x ≠ "..")
    {base place : Location} (h : place ∈ way base xs) : place <+: base ++ xs := by
  induction xs generalizing base with
  | nil => simp_all [way]
  | cons x xs ih =>
    obtain ⟨hx, hxs⟩ := List.forall_mem_cons.mp hnames
    obtain rfl | h := List.mem_cons.mp h
    · exact List.prefix_append _ _
    · rw [step_of_name hx.1 hx.2] at h
      simpa using ih hxs h

/-! ## Steps and joined paths -/

theorem stays_of_mem_steps {path x : String} (h : x ∈ steps path) : stays x = false := by
  simpa using (List.mem_filter.mp h).2

theorem pieces_eq_append {path : String} {before after : List Char}
    (h : path.toList = before ++ '/' :: after) :
    pieces path = pieces (String.ofList before) ++ pieces (String.ofList after) := by
  simp [pieces, h, splitAtChar_append]

theorem pieces_of_not_mem {path : String} (h : '/' ∉ path.toList) : pieces path = [path] := by
  simp [pieces, splitAtChar_of_not_mem h]

theorem isAbsolute_of_not_mem {path : String} (h : '/' ∉ path.toList) :
    isAbsolute path = false := by
  cases hpath : path.toList with
  | nil => simp [isAbsolute, hpath]
  | cons c cs =>
    rw [hpath] at h
    simpa [isAbsolute, hpath] using fun hc : c = '/' => h (by simp [hc])

/-- A name inside a directory is the last piece of its path; the pieces before it lead where the
path of the directory leads. -/
theorem pieces_join (dir : String) {name : String} (hname : '/' ∉ name.toList) :
    ∃ front, pieces (join dir name) = front ++ [name] ∧
      (front.filter fun piece => !stays piece) = steps dir := by
  rw [join, if_neg (by simp [isAbsolute_of_not_mem hname])]
  by_cases hempty : dir = ""
  · subst hempty
    exact ⟨[], by simp [pieces_of_not_mem hname], rfl⟩
  by_cases hslash : dir.toList.getLast? = some '/'
  · -- The last piece of the directory is empty, and the name takes its place.
    obtain ⟨before, hbefore⟩ := List.getLast?_eq_some_iff.mp hslash
    have hjoin : (dir ++ name).toList = before ++ '/' :: name.toList := by simp [hbefore]
    refine ⟨pieces (String.ofList before), ?_, ?_⟩
    · rw [if_pos (.inr hslash), pieces_eq_append hjoin]
      simp [pieces_of_not_mem hname]
    · rw [steps, pieces_eq_append hbefore, List.filter_append]
      simp [show pieces "" = [""] from rfl, stays]
  · have hjoin : (dir ++ "/" ++ name).toList = dir.toList ++ '/' :: name.toList := by simp
    refine ⟨pieces dir, ?_, rfl⟩
    rw [if_neg (by simp [hempty, hslash]), pieces_eq_append hjoin]
    simp [pieces_of_not_mem hname]

theorem steps_join (dir : String) {name : String} (hname : '/' ∉ name.toList)
    (hstays : stays name = false) : steps (join dir name) = steps dir ++ [name] := by
  obtain ⟨front, hpieces, hfront⟩ := pieces_join dir hname
  rw [steps, hpieces, List.filter_append, hfront, List.filter_singleton]
  simp [hstays]

theorem isAbsolute_join (dir : String) {name : String} (hname : '/' ∉ name.toList) :
    isAbsolute (join dir name) = isAbsolute dir := by
  have hrelative := isAbsolute_of_not_mem hname
  rw [join, if_neg (by simp [hrelative])]
  cases hdir : dir.toList with
  | nil =>
    obtain rfl : dir = "" := String.toList_eq_nil_iff.mp hdir
    rw [if_pos (.inl rfl), String.empty_append, hrelative]
    rfl
  | cons c cs => split <;> simp [isAbsolute, hdir]

end Path

namespace FileTree

open Lexeme.Path

variable {t : FileTree} {base place : Location} {pieces xs : List String} {x : String}

/-! ## Walks -/

/-- The place itself, if a directory stands there. -/
def enter (t : FileTree) (place : Location) : Except IoFault Location :=
  match t.get? place with
  | none => .error .notFound
  | some (.file _) => .error .notDirectory
  | some .directory => .ok place

theorem enter_eq_ok_iff {p : Location} :
    t.enter place = .ok p ↔ p = place ∧ t.get? place = some .directory := by
  unfold enter
  split <;> grind

theorem checkName_of_stays {name : String} (h : stays name = true) : checkName name = .ok () := by
  obtain rfl | rfl : name = "" ∨ name = "." := by simpa [stays] using h
  · decide
  · decide

theorem walk_cons (t : FileTree) (base : Location) (x : String) (xs : List String) :
    t.walk base (x :: xs) =
      (do let place ← t.enter base; checkName x; t.walk (step place x) xs) := by
  rw [walk, enter]
  cases hbase : t.get? base with
  | none => rfl
  | some e =>
    cases e with
    | file content => rfl
    | directory =>
      -- Names are checked only where they count, but the others are short enough anyway.
      by_cases hstays : stays x = true
      · simp only [hstays, if_true, bind, Except.bind, checkName_of_stays hstays,
          step_of_stays hstays]
      · by_cases hup : x = ".."
        · subst hup
          rfl
        · simp only [step, hstays, hup, if_false, bind, Except.bind]
          cases checkName x <;> rfl

theorem walkToDirectory_nil (t : FileTree) (base : Location) :
    t.walkToDirectory base [] = t.enter base := rfl

theorem walkToDirectory_cons (t : FileTree) (base : Location) (x : String) (xs : List String) :
    t.walkToDirectory base (x :: xs) =
      (do let place ← t.enter base; checkName x; t.walkToDirectory (step place x) xs) := by
  change t.walk base (x :: xs) >>= t.enter = _
  rw [walk_cons]
  simp only [bind_assoc]
  rfl

theorem enter_bind_walkToDirectory (t : FileTree) (base : Location) (xs : List String) :
    (do let place ← t.enter base; t.walkToDirectory place xs) = t.walkToDirectory base xs := by
  cases h : t.enter base with
  | ok place =>
    obtain ⟨rfl, -⟩ := enter_eq_ok_iff.mp h
    rfl
  | error fault =>
    cases xs with
    | nil => exact h.symm
    | cons x xs =>
      rw [walkToDirectory_cons, h]
      rfl

/-- All but the last piece lead to a directory. -/
theorem walk_concat (t : FileTree) (base : Location) (xs : List String) (x : String) :
    t.walk base (xs ++ [x]) =
      (do let place ← t.walkToDirectory base xs; checkName x; return step place x) := by
  induction xs generalizing base with
  | nil => exact walk_cons t base x []
  | cons y xs ih => simp only [List.cons_append, walk_cons, walkToDirectory_cons, ih, bind_assoc]

/-- A walk leads where its pieces say. -/
theorem eq_resolve_of_walk {p : Location} (h : t.walk base xs = .ok p) : p = resolve base xs := by
  induction xs generalizing base with
  | nil =>
    cases h
    rfl
  | cons x xs ih =>
    rw [walk_cons] at h
    obtain ⟨place, hbase, hrest⟩ := bind_eq_ok_iff.mp h
    obtain ⟨_, -, hrest⟩ := bind_eq_ok_iff.mp hrest
    obtain ⟨rfl, -⟩ := enter_eq_ok_iff.mp hbase
    exact ih hrest

/-- Pieces that stay in place make no difference on the way to a directory. -/
theorem walkToDirectory_filter (t : FileTree) (base : Location) (pieces : List String) :
    t.walkToDirectory base (pieces.filter fun piece => !stays piece) =
      t.walkToDirectory base pieces := by
  induction pieces generalizing base with
  | nil => rfl
  | cons x xs ih =>
    by_cases hx : stays x = true
    · have hskip : t.walkToDirectory base (x :: xs) = t.walkToDirectory base xs := by
        simp only [walkToDirectory_cons, checkName_of_stays hx, step_of_stays hx]
        exact enter_bind_walkToDirectory t base xs
      rw [List.filter_cons_of_neg (by simp [hx]), ih, hskip]
    · rw [List.filter_cons_of_pos (by simp [hx])]
      simp only [walkToDirectory_cons, ih]

/-- A walk comes to a directory if its names are short enough and it leads through directories. -/
theorem walkToDirectory_eq_ok_iff {p : Location} :
    t.walkToDirectory base xs = .ok p ↔
      p = resolve base xs ∧ (∀ x ∈ xs, checkName x = .ok ()) ∧
        ∀ place ∈ way base xs, t.get? place = some .directory := by
  induction xs generalizing base with
  | nil => simp [walkToDirectory_nil, enter_eq_ok_iff, way]
  | cons x xs ih =>
    simp only [walkToDirectory_cons, bind_eq_ok_iff, enter_eq_ok_iff, ih, way, resolve_cons,
      List.forall_mem_cons]
    grind

theorem walkToDirectory_concat_eq_ok_iff {p : Location} :
    t.walkToDirectory base (xs ++ [x]) = .ok p ↔
      t.walkToDirectory base xs = .ok (resolve base xs) ∧ checkName x = .ok () ∧
        p = resolve base (xs ++ [x]) ∧ t.get? p = some .directory := by
  simp only [walkToDirectory_eq_ok_iff, way_concat, List.forall_mem_append,
    List.forall_mem_singleton]
  grind

theorem isDirectory_iff :
    t.isDirectory base xs = true ↔ ∃ p, t.walkToDirectory base xs = .ok p := by
  unfold isDirectory stat walkToDirectory
  cases t.walk base xs with
  | error fault => simp [bind, Except.bind]
  | ok p =>
    cases hget : t.get? p with
    | none => simp [bind, Except.bind, hget]
    | some e => cases e <;> simp [bind, Except.bind, hget]

theorem lastPlace_concat (t : FileTree) (base : Location) (xs : List String) (x : String) :
    t.lastPlace base (xs ++ [x]) =
      (do let parent ← t.walkToDirectory base xs; checkName x
          return if x = ".." then none else some (parent ++ [x])) := by
  simp [lastPlace]

/-- A file is written into a directory that exists, but not over a directory. -/
theorem write_eq_ok_iff {t' : FileTree} {content : ByteArray} (hup : x ≠ "..") :
    t.write base (xs ++ [x]) content = .ok t' ↔
      ∃ parent, t.walkToDirectory base xs = .ok parent ∧ checkName x = .ok () ∧
        t.get? (parent ++ [x]) ≠ some .directory ∧
        t' = t.insert (parent ++ [x]) (.file content) := by
  rw [write, lastPlace_concat]
  simp only [bind_eq_ok_iff, pure, Except.pure, Except.ok.injEq, hup, if_false]
  constructor
  · rintro ⟨_, ⟨parent, hwalk, _, hname, rfl⟩, hwrite⟩
    by_cases hdir : t.get? (parent ++ [x]) = some .directory
    · simp [hdir] at hwrite
    · exact ⟨parent, hwalk, hname, hdir, by simpa [hdir, eq_comm] using hwrite⟩
  · rintro ⟨parent, hwalk, hname, hdir, rfl⟩
    exact ⟨some (parent ++ [x]), ⟨parent, hwalk, (), hname, rfl⟩, by simp [hdir]⟩

/-! ## Well-formed trees -/

/-- Everything in the tree stands in a directory. -/
def WellFormed (t : FileTree) : Prop :=
  ∀ place name e, t.get? (place ++ [name]) = some e → t.get? place = some .directory

theorem wellFormed_of_entries
    (h : ∀ e ∈ t.entries, t.get? e.1.dropLast = some .directory) : t.WellFormed := by
  intro place name e he
  have hlookup : t.entries.lookup (place ++ [name]) = some e := by simpa [get?] using he
  obtain ⟨front, rest, heq, -⟩ := List.lookup_eq_some_iff.mp hlookup
  simpa using h (place ++ [name], e) (by simp [heq])

namespace WellFormed

/-- Directories stand all the way above what exists. -/
theorem get?_of_isPrefix (h : t.WellFormed) {p q : Location} {e : Entry} (hq : t.get? q = some e)
    (hp : p <+: q) (hne : p ≠ q) : t.get? p = some .directory := by
  obtain ⟨rest, rfl⟩ := hp
  induction rest using List.reverseRecOn generalizing e with
  | nil => simp at hne
  | append_singleton rest name ih =>
    rw [← List.append_assoc] at hq
    have hparent := h _ _ _ hq
    by_cases hrest : rest = []
    · simpa [hrest] using hparent
    · exact ih hparent (by simpa using hrest)

theorem get?_dropLast (h : t.WellFormed) (hplace : t.get? place = some .directory) :
    t.get? place.dropLast = some .directory := by
  obtain rfl | ⟨parent, name, rfl⟩ := List.eq_nil_or_concat' place
  · rfl
  · rw [List.dropLast_concat]
    exact h _ _ _ hplace

/-- A tree stays well-formed when something is put into a directory, unless a file takes the place
of a directory and of all that is in it. -/
theorem insert (h : t.WellFormed) {parent : Location} {name : String} {e : Entry}
    (hparent : t.get? parent = some .directory)
    (he : t.get? (parent ++ [name]) = some .directory → e = .directory) :
    (t.insert (parent ++ [name]) e).WellFormed := by
  intro place name' e' hget
  rw [get?_insert _ _ _ _ (by simp)] at hget ⊢
  by_cases hnew : place ++ [name'] = parent ++ [name]
  · obtain ⟨rfl, -⟩ := List.append_inj' hnew rfl
    rwa [if_neg (by simp)]
  · rw [if_neg hnew] at hget
    have hdir := h _ _ _ hget
    split
    · next heq => rw [he (heq ▸ hdir)]
    · exact hdir

end WellFormed

end FileTree

end Lexeme
