import Lexeme.Proofs.Walks

/-!
# Making directories

A directory is made together with the directories that are missing above it. The tree grows by
directories on the way and is otherwise left alone, whether this succeeds or not; and it succeeds
if there is neither a file nor a long name in the way. What is missing may also be passed by and
left again, and is then made all the same.

## Main definitions

* `FileTree.Grows`: a tree with some more directories.
* `FileTree.Passable`: nothing worse than missing directories is in the way.

## Main statements

* `FileTree.makeDirectories_grows`: what is made.
* `FileTree.makeDirectories_of_get?_base_ne`: nothing is made without a place to start from.
* `FileTree.Passable.makeDirectories`: when it succeeds.
-/

namespace Lexeme.FileTree

open Lexeme.Path

variable {t t' t'' : FileTree} {base place : Location} {xs : List String} {x : String}
  {places places' : List Location}

/-! ## Growing trees -/

/-- `t'` has new directories at some of `places`, where there was nothing in `t`, and is the same
everywhere else. -/
structure Grows (t t' : FileTree) (places : List Location) : Prop where
  wellFormed : t.WellFormed → t'.WellFormed
  get?_eq : ∀ place, t'.get? place = t.get? place ∨
    place ∈ places ∧ t.get? place = none ∧ t'.get? place = some .directory

namespace Grows

theorem refl (t : FileTree) (places : List Location) : Grows t t places :=
  ⟨id, fun _ => .inl rfl⟩

theorem mono (h : Grows t t' places) (hsub : places ⊆ places') : Grows t t' places' := by
  refine ⟨h.wellFormed, fun place => ?_⟩
  obtain heq | ⟨hmem, hnew⟩ := h.get?_eq place
  · exact .inl heq
  · exact .inr ⟨hsub hmem, hnew⟩

theorem trans (h : Grows t t' places) (h' : Grows t' t'' places) : Grows t t'' places := by
  refine ⟨h'.wellFormed ∘ h.wellFormed, fun place => ?_⟩
  have := h.get?_eq place
  have := h'.get?_eq place
  grind

theorem directory (h : Grows t t' places) (hplace : t.get? place = some .directory) :
    t'.get? place = some .directory := by
  have := h.get?_eq place
  grind

theorem file_iff (h : Grows t t' places) {content : ByteArray} :
    t'.get? place = some (.file content) ↔ t.get? place = some (.file content) := by
  have := h.get?_eq place
  grind

theorem walkToDirectory_eq_ok (h : Grows t t' places) {p : Location}
    (hwalk : t.walkToDirectory base xs = .ok p) : t'.walkToDirectory base xs = .ok p := by
  rw [walkToDirectory_eq_ok_iff] at hwalk ⊢
  obtain ⟨hp, hnames, hway⟩ := hwalk
  exact ⟨hp, hnames, fun place hplace => h.directory (hway place hplace)⟩

end Grows

theorem grows_insert {parent : Location} {name : String}
    (hparent : t.get? parent = some .directory) (hnew : t.get? (parent ++ [name]) = none) :
    Grows t (t.insert (parent ++ [name]) .directory) [parent ++ [name]] := by
  refine ⟨fun h => h.insert hparent fun _ => rfl, fun place => ?_⟩
  rw [get?_insert _ _ _ _ (by simp)]
  split
  · next heq => exact .inr ⟨by simp [heq], by rw [heq, hnew], rfl⟩
  · exact .inl rfl

/-! ## One directory -/

theorem makeDirectory_eq_ok_iff :
    t.makeDirectory base (xs ++ [x]) = .ok t' ↔
      ∃ parent, t.walkToDirectory base xs = .ok parent ∧ checkName x = .ok () ∧ x ≠ ".." ∧
        t.get? (parent ++ [x]) = none ∧ t' = t.insert (parent ++ [x]) .directory := by
  rw [makeDirectory, lastPlace_concat]
  simp only [bind_eq_ok_iff, pure, Except.pure, Except.ok.injEq]
  constructor
  · rintro ⟨_, ⟨parent, hwalk, _, hname, rfl⟩, hmake⟩
    by_cases hup : x = ".."
    · simp [hup] at hmake
    · cases hnew : t.get? (parent ++ [x]) with
      | none => exact ⟨parent, hwalk, hname, hup, hnew, by simpa [hup, hnew, eq_comm] using hmake⟩
      | some e => simp [hup, hnew] at hmake
  · rintro ⟨parent, hwalk, hname, hup, hnew, rfl⟩
    exact ⟨some (parent ++ [x]), ⟨parent, hwalk, (), hname, by simp [hup]⟩, by simp [hnew]⟩

/-- A directory that is made is the last place on the way, and the way is open then. -/
theorem grows_makeDirectory (hx : stays x = false)
    (h : t.makeDirectory base (xs ++ [x]) = .ok t') :
    Grows t t' (way base (xs ++ [x])) ∧
      t'.walkToDirectory base (xs ++ [x]) = .ok (resolve base (xs ++ [x])) := by
  obtain ⟨parent, hwalk, hname, hup, hnew, rfl⟩ := makeDirectory_eq_ok_iff.mp h
  obtain ⟨rfl, -, hway⟩ := walkToDirectory_eq_ok_iff.mp hwalk
  have hlast : resolve base (xs ++ [x]) = resolve base xs ++ [x] := by
    rw [resolve_concat, step_of_name hx hup]
  have hgrows := grows_insert (hway _ (resolve_mem_way base xs)) hnew
  refine ⟨hgrows.mono (by simp [way_concat, hlast]), ?_⟩
  apply walkToDirectory_concat_eq_ok_iff.mpr
  refine ⟨hgrows.walkToDirectory_eq_ok hwalk, hname, rfl, ?_⟩
  rw [hlast, get?_insert _ _ _ _ (by simp), if_pos rfl]

theorem get?_base_of_makeDirectory (h : t.makeDirectory base (xs ++ [x]) = .ok t') :
    t.get? base = some .directory := by
  obtain ⟨parent, hwalk, -⟩ := makeDirectory_eq_ok_iff.mp h
  exact (walkToDirectory_eq_ok_iff.mp hwalk).2.2 base (base_mem_way base xs)

theorem grows_settle (hx : stays x = false) :
    Grows t (t.settle base (xs ++ [x]) (t.makeDirectory base (xs ++ [x]))).1
      (way base (xs ++ [x])) := by
  cases h : t.makeDirectory base (xs ++ [x]) with
  | ok made => exact (grows_makeDirectory hx h).1
  | error fault => exact .refl t _

/-! ## All directories that are missing -/

/-- Nothing but directories on the way is made. -/
theorem makeDirectories_grows {reversed : List String}
    (hsteps : ∀ x ∈ reversed, stays x = false) :
    Grows t (makeDirectories base reversed t).1 (way base reversed.reverse) := by
  fun_induction makeDirectories base reversed t with
  | case1 t => exact .refl t _
  | case2 last above t steps hmake t' fault hrec ih =>
    have habove := ih fun x hx => hsteps x (by simp [hx])
    rw [hrec] at habove
    exact habove.mono (by simp [way_concat])
  | case3 last above t steps hmake t' hrec ih =>
    have habove := ih fun x hx => hsteps x (by simp [hx])
    rw [hrec] at habove
    refine (habove.mono (by simp [way_concat])).trans ?_
    simpa [steps] using grows_settle (hsteps last (by simp))
  | case4 last above t steps hmake =>
    simpa [steps] using grows_settle (hsteps last (by simp))

/-- Without a directory to start from, nothing is made. -/
theorem makeDirectories_of_get?_base_ne {reversed : List String}
    (hbase : t.get? base ≠ some .directory) : (makeDirectories base reversed t).1 = t := by
  have hsettle : ∀ x xs, (t.settle base (xs ++ [x]) (t.makeDirectory base (xs ++ [x]))).1 = t := by
    intro x xs
    cases h : t.makeDirectory base (xs ++ [x]) with
    | ok made => exact absurd (get?_base_of_makeDirectory h) hbase
    | error fault => rfl
  fun_induction makeDirectories base reversed t with
  | case1 t => rfl
  | case2 last above t steps hmake t' fault hrec ih => simpa [hrec] using ih hbase hsettle
  | case3 last above t steps hmake t' hrec ih =>
    obtain rfl : t' = t := by simpa [hrec] using ih hbase hsettle
    simpa [steps] using hsettle last above.reverse
  | case4 last above t steps hmake => simpa [steps] using hsettle last above.reverse

/-- There is a directory to start from, and neither a file nor a long name is in the way. Something
may be missing. -/
structure Passable (t : FileTree) (base : Location) (steps : List String) : Prop where
  start : t.get? base = some .directory
  names : ∀ name ∈ steps, checkName name = .ok ()
  noFile : ∀ place ∈ way base steps, ∀ content, t.get? place ≠ some (.file content)

namespace Passable

theorem of_concat (h : t.Passable base (xs ++ [x])) : t.Passable base xs := by
  refine ⟨h.start, fun name hname => h.names name (by simp [hname]), ?_⟩
  intro place hplace
  exact h.noFile place (by simp [way_concat, hplace])

theorem grows (h : t.Passable base xs) (hgrows : Grows t t' places) : t'.Passable base xs := by
  refine ⟨hgrows.directory h.start, h.names, ?_⟩
  intro place hplace content hfile
  exact h.noFile place hplace content (hgrows.file_iff.mp hfile)

/-- If a passable way is not open, then because something is missing. -/
theorem walkToDirectory_cases (h : t.Passable base xs) :
    t.walkToDirectory base xs = .ok (resolve base xs) ∨
      t.walkToDirectory base xs = .error .notFound := by
  obtain ⟨hstart, hnames, hfile⟩ := h
  induction xs generalizing base with
  | nil => exact .inl (enter_eq_ok_iff.mpr ⟨rfl, hstart⟩)
  | cons x xs ih =>
    obtain ⟨hname, hnames⟩ := List.forall_mem_cons.mp hnames
    obtain ⟨-, hfile⟩ := List.forall_mem_cons.mp hfile
    have hcons : t.walkToDirectory base (x :: xs) = t.walkToDirectory (step base x) xs := by
      rw [walkToDirectory_cons, enter_eq_ok_iff.mpr ⟨rfl, hstart⟩, hname]
      rfl
    rw [hcons]
    cases hget : t.get? (step base x) with
    | none =>
      have henter : t.enter (step base x) = .error .notFound := by simp [enter, hget]
      right
      rw [← enter_bind_walkToDirectory, henter]
      rfl
    | some e =>
      cases e with
      | file content => exact absurd hget (hfile _ (base_mem_way _ _) content)
      | directory => exact ih hget hnames hfile

/-- With an open way to the directory above, the last directory is made or exists. -/
theorem settle_of_walkToDirectory (h : t.Passable base (xs ++ [x])) (hwf : t.WellFormed)
    (hx : stays x = false) (hwalk : t.walkToDirectory base xs = .ok (resolve base xs)) :
    (t.settle base (xs ++ [x]) (t.makeDirectory base (xs ++ [x]))).2 = .ok () ∧
      (t.settle base (xs ++ [x]) (t.makeDirectory base (xs ++ [x]))).1.walkToDirectory base
        (xs ++ [x]) = .ok (resolve base (xs ++ [x])) := by
  cases hmake : t.makeDirectory base (xs ++ [x]) with
  | ok made => exact ⟨rfl, (grows_makeDirectory hx hmake).2⟩
  | error fault =>
    have hname := h.names x (by simp)
    have hlast : t.get? (resolve base (xs ++ [x])) = some .directory := by
      by_cases hup : x = ".."
      · -- One step up from a directory there is a directory.
        have hdir := (walkToDirectory_eq_ok_iff.mp hwalk).2.2 _ (resolve_mem_way base xs)
        rw [resolve_concat, step, if_neg (by simp [hx]), if_pos hup]
        exact hwf.get?_dropLast hdir
      · have hfile := h.noFile _ (resolve_mem_way base (xs ++ [x]))
        rw [resolve_concat, step_of_name hx hup] at hfile ⊢
        cases hget : t.get? (resolve base xs ++ [x]) with
        | none =>
          have hmade := makeDirectory_eq_ok_iff.mpr ⟨_, hwalk, hname, hup, hget, rfl⟩
          rw [hmake] at hmade
          cases hmade
        | some e =>
          cases e with
          | file content => exact absurd hget (hfile content)
          | directory => rfl
    have hopen := walkToDirectory_concat_eq_ok_iff.mpr ⟨hwalk, hname, rfl, hlast⟩
    exact ⟨by simp [settle, isDirectory_iff.mpr ⟨_, hopen⟩], hopen⟩

/-- If nothing worse than missing directories is in the way, they are made, and then the way is
open. -/
theorem makeDirectories {reversed : List String} (h : t.Passable base reversed.reverse)
    (hwf : t.WellFormed) (hsteps : ∀ x ∈ reversed, stays x = false) :
    (makeDirectories base reversed t).2 = .ok () ∧
      (makeDirectories base reversed t).1.walkToDirectory base reversed.reverse =
        .ok (resolve base reversed.reverse) := by
  fun_induction FileTree.makeDirectories base reversed t with
  | case1 t => exact ⟨rfl, enter_eq_ok_iff.mpr ⟨rfl, h.start⟩⟩
  | case2 last above t steps hmake t' fault hrec ih =>
    rw [List.reverse_cons] at h
    have habove := (ih h.of_concat hwf fun x hx => hsteps x (by simp [hx])).1
    simp [hrec] at habove
  | case3 last above t steps hmake t' hrec ih =>
    have habove : ∀ x ∈ above, stays x = false := fun x hx => hsteps x (by simp [hx])
    have hgrows := @makeDirectories_grows t base above habove
    rw [List.reverse_cons] at h
    have hwalk := (ih h.of_concat hwf habove).2
    rw [hrec] at hgrows hwalk
    simp only [steps, List.reverse_cons]
    exact (h.grows hgrows).settle_of_walkToDirectory (hgrows.wellFormed hwf)
      (hsteps last (by simp)) hwalk
  | case4 last above t steps hmake =>
    rw [List.reverse_cons] at h
    simp only [steps, List.reverse_cons] at hmake ⊢
    refine h.settle_of_walkToDirectory hwf (hsteps last (by simp)) ?_
    apply h.of_concat.walkToDirectory_cases.resolve_right
    intro hmissing
    apply hmake
    rw [makeDirectory, lastPlace_concat, hmissing]
    rfl

end Passable

end Lexeme.FileTree
