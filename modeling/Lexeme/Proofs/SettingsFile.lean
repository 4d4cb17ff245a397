import Lexeme.Command.Init
import Lexeme.Proofs.Directories

/-!
# The settings file

Settings are written into a file of a directory, and the text that is written reads back. Before
anything is changed, the command that does this asks whether the directory is a regular file and
whether there is a settings file already. Both questions are put to the disk as it is, and so a
settings file is found only if the way to it is open. Then the missing directories are made, and the
file is written if the way is open now.

## Main definitions

* `Disk.settingsPlace`: where the settings file of a directory is.
* `Disk.Open`: a path that leads through directories.
* `Disk.Prepared`: a tree into which the settings file can be written.
* `InitOutcome`: how the command ends.

## Main statements

* `Settings.parse?_text`: the text of settings reads back.
* `Settings.save_outcome`, `Settings.save_of_passable`: what saving does, and when it succeeds.
* `initSettings_outcome`, `initSettings_of_passable`: the four ends of the command, and when it
  succeeds.
-/

namespace Lexeme

open FileTree (Grows checkName)

/-! ## The text -/

theorem Settings.parse?_text (s : Settings) : Settings.parse? s.text = some s := by
  obtain ⟨verbose, strict, format⟩ := s
  cases verbose <;> cases strict <;> cases format <;> decide +kernel

/-! ## Where the file is -/

namespace Disk

/-- The path of the settings file in a directory. -/
def settingsPath (dir : String) : String := Path.join dir Settings.fileName

/-- The place that the path of a directory leads to, if nothing is in the way. -/
def directoryPlace (d : Disk) (dir : String) : Location :=
  Path.resolve (d.origin dir) (Path.steps dir)

/-- The place of the settings file in a directory. -/
def settingsPlace (d : Disk) (dir : String) : Location :=
  d.directoryPlace dir ++ [Settings.fileName]

/-- The places on the way to a directory, and its own. -/
def wayTo (d : Disk) (dir : String) : List Location :=
  Path.way (d.origin dir) (Path.steps dir)

/-- The path of a directory leads there through directories. -/
def Open (d : Disk) (dir : String) : Prop :=
  d.tree.walkToDirectory (d.origin dir) (Path.steps dir) = .ok (d.directoryPlace dir)

variable {d : Disk} {dir : String}

theorem open_iff : d.Open dir ↔
    (∀ name ∈ Path.steps dir, checkName name = .ok ()) ∧
      ∀ place ∈ d.wayTo dir, d.tree.get? place = some .directory := by
  simp [Open, FileTree.walkToDirectory_eq_ok_iff, directoryPlace, wayTo]

theorem directoryPlace_mem_wayTo (d : Disk) (dir : String) : d.directoryPlace dir ∈ d.wayTo dir :=
  Path.resolve_mem_way _ _

theorem slash_not_mem_fileName : '/' ∉ Settings.fileName.toList := by decide

theorem origin_settingsPath (d : Disk) (dir : String) :
    d.origin (settingsPath dir) = d.origin dir := by
  rw [origin, settingsPath, Path.isAbsolute_join dir slash_not_mem_fileName, origin]

theorem settingsPath_ne_empty (dir : String) : settingsPath dir ≠ "" := by
  obtain ⟨front, hpieces, -⟩ := Path.pieces_join dir slash_not_mem_fileName
  intro hempty
  rw [settingsPath] at hempty
  have hlast := congrArg List.getLast? hpieces
  rw [hempty, List.getLast?_concat] at hlast
  exact absurd hlast (by decide)

/-- The settings file is looked for in the directory that the path of the directory leads to. -/
theorem stat_settingsPath (d : Disk) (dir : String) :
    d.stat (settingsPath dir) = (do
      checkPath (settingsPath dir)
      let place ← d.tree.walkToDirectory (d.origin dir) (Path.steps dir)
      match d.tree.get? (place ++ [Settings.fileName]) with
      | none => .error .notFound
      | some e => .ok e) := by
  obtain ⟨front, hpieces, hfront⟩ := Path.pieces_join dir slash_not_mem_fileName
  have hwalk : d.tree.walk (d.origin dir) (Path.pieces (settingsPath dir)) =
      (do let place ← d.tree.walkToDirectory (d.origin dir) (Path.steps dir)
          return place ++ [Settings.fileName]) := by
    rw [settingsPath, hpieces, FileTree.walk_concat, ← hfront, FileTree.walkToDirectory_filter]
    rfl
  rw [stat, if_neg (settingsPath_ne_empty dir), origin_settingsPath, FileTree.stat, hwalk]
  cases d.tree.walkToDirectory (d.origin dir) (Path.steps dir) <;> rfl

theorem stat_settingsPath_eq_ok_iff {e : Entry} : d.stat (settingsPath dir) = .ok e ↔
    checkPath (settingsPath dir) = .ok () ∧ d.Open dir ∧
      d.tree.get? (d.settingsPlace dir) = some e := by
  simp only [stat_settingsPath, bind_eq_ok_iff]
  constructor
  · rintro ⟨_, hpath, place, hwalk, hget⟩
    obtain ⟨rfl, -⟩ := FileTree.walkToDirectory_eq_ok_iff.mp hwalk
    refine ⟨hpath, hwalk, ?_⟩
    rw [settingsPlace, directoryPlace]
    grind
  · rintro ⟨hpath, hopen, hget⟩
    exact ⟨(), hpath, _, hopen, by rw [settingsPlace] at hget; rw [hget]⟩

theorem pathExists_iff {path : String} :
    d.pathExists path = true ↔ ∃ e, d.stat path = .ok e := by
  rw [pathExists]
  cases d.stat path <;> simp [Except.isOk, Except.toBool]

theorem write_settingsPath_eq_ok_iff {text : String} {d' : Disk} :
    d.write (settingsPath dir) text = .ok d' ↔
      checkPath (settingsPath dir) = .ok () ∧ d.Open dir ∧
        d.tree.get? (d.settingsPlace dir) ≠ some .directory ∧
        d' = { d with tree := d.tree.insert (d.settingsPlace dir) (.file text.toUTF8) } := by
  have hsteps : Path.steps (settingsPath dir) = Path.steps dir ++ [Settings.fileName] :=
    Path.steps_join dir slash_not_mem_fileName rfl
  have hup : Settings.fileName ≠ ".." := by decide
  rw [write, origin_settingsPath, hsteps]
  simp only [bind_eq_ok_iff, FileTree.write_eq_ok_iff hup, pure, Except.pure, Except.ok.injEq]
  constructor
  · rintro ⟨_, hpath, _, ⟨place, hwalk, -, hdir, rfl⟩, rfl⟩
    obtain ⟨rfl, -⟩ := FileTree.walkToDirectory_eq_ok_iff.mp hwalk
    exact ⟨hpath, hwalk, hdir, rfl⟩
  · rintro ⟨hpath, hopen, hdir, rfl⟩
    exact ⟨(), hpath, _, ⟨_, hopen, rfl, hdir, rfl⟩, rfl⟩

/-- A regular file at the path of a directory stands in its place. -/
theorem get?_directoryPlace_of_stat {content : ByteArray} (h : d.stat dir = .ok (.file content)) :
    d.tree.get? (d.directoryPlace dir) = some (.file content) := by
  obtain ⟨_, -, h⟩ := bind_eq_ok_iff.mp h
  split at h
  · cases h
  · obtain ⟨place, hwalk, hget⟩ := bind_eq_ok_iff.mp h
    obtain rfl := FileTree.eq_resolve_of_walk hwalk
    rw [directoryPlace, Path.steps, Path.resolve_filter]
    grind

theorem Open.get?_directoryPlace (h : d.Open dir) :
    d.tree.get? (d.directoryPlace dir) = some .directory :=
  (open_iff.mp h).2 _ (d.directoryPlace_mem_wayTo dir)

theorem Open.stat_ne (h : d.Open dir) (content : ByteArray) : d.stat dir ≠ .ok (.file content) := by
  intro hfile
  have hplace := get?_directoryPlace_of_stat hfile
  rw [h.get?_directoryPlace] at hplace
  cases hplace

theorem open_of_pathExists (h : d.pathExists (settingsPath dir) = true) : d.Open dir := by
  obtain ⟨e, he⟩ := pathExists_iff.mp h
  exact (stat_settingsPath_eq_ok_iff.mp he).2.1

/-- A way that can be passed is open, unless something on it is missing. -/
theorem open_or_gap (h : d.tree.Passable (d.origin dir) (Path.steps dir)) :
    d.Open dir ∨ ∃ place ∈ d.wayTo dir, d.tree.get? place = none := by
  by_cases hgap : ∃ place ∈ d.wayTo dir, d.tree.get? place = none
  · exact .inr hgap
  · refine .inl (open_iff.mpr ⟨h.names, fun place hplace => ?_⟩)
    cases hget : d.tree.get? place with
    | none => exact absurd ⟨place, hplace, hget⟩ hgap
    | some e =>
      cases e with
      | file content => exact absurd hget (h.noFile place hplace content)
      | directory => rfl

theorem not_open_of_gap (h : ∃ place ∈ d.wayTo dir, d.tree.get? place = none) : ¬d.Open dir := by
  obtain ⟨place, hplace, hget⟩ := h
  intro hopen
  have hdir := (open_iff.mp hopen).2 place hplace
  rw [hget] at hdir
  cases hdir

/-! ## Paths that go down only -/

theorem names_of_not_mem (hup : ".." ∉ Path.steps dir) :
    ∀ x ∈ Path.steps dir, Path.stays x = false ∧ x ≠ ".." :=
  fun _ hx => ⟨Path.stays_of_mem_steps hx, fun h => hup (h ▸ hx)⟩

theorem settingsPlace_of_not_mem (hup : ".." ∉ Path.steps dir) :
    d.settingsPlace dir = d.origin dir ++ Path.steps dir ++ [Settings.fileName] := by
  rw [settingsPlace, directoryPlace, Path.resolve_of_names (names_of_not_mem hup)]

/-- The way goes down to the settings file. -/
theorem isPrefix_of_mem_wayTo (hup : ".." ∉ Path.steps dir) {place : Location}
    (h : place ∈ d.wayTo dir) : place <+: d.settingsPlace dir ∧ place ≠ d.settingsPlace dir := by
  have habove := Path.isPrefix_of_mem_way (names_of_not_mem hup) h
  rw [settingsPlace_of_not_mem hup]
  refine ⟨habove.trans (List.prefix_append _ _), ?_⟩
  rintro rfl
  have hlength := habove.length_le
  simp only [List.length_append, List.length_singleton] at hlength
  omega

/-- Above a settings file that exists, the way is open. -/
theorem not_gap_of_get? (hup : ".." ∉ Path.steps dir) (hwf : d.tree.WellFormed) {e : Entry}
    (h : d.tree.get? (d.settingsPlace dir) = some e) :
    ¬∃ place ∈ d.wayTo dir, d.tree.get? place = none := by
  rintro ⟨place, hplace, hget⟩
  obtain ⟨habove, hne⟩ := isPrefix_of_mem_wayTo hup hplace
  rw [hwf.get?_of_isPrefix h habove hne] at hget
  cases hget

/-! ## Saving -/

/-- `tree` is ready for the settings file: the way to the directory is open now, with nothing but
directories made on it, and the file can be written there. -/
structure Prepared (d : Disk) (dir : String) (tree : FileTree) : Prop where
  accepted : checkPath (Path.withoutTail dir) = .ok () ∧ checkPath (settingsPath dir) = .ok ()
  start : d.tree.get? (d.origin dir) = some .directory
  grows : Grows d.tree tree (d.wayTo dir)
  opened : ({ d with tree } : Disk).Open dir
  free : tree.get? (d.settingsPlace dir) ≠ some .directory

/-- The disk with the settings file written into `tree`. -/
def withSettings (d : Disk) (dir : String) (s : Settings) (tree : FileTree) : Disk :=
  { d with tree := tree.insert (d.settingsPlace dir) (.file s.text.toUTF8) }

theorem get?_withSettings {s : Settings} {tree : FileTree} (place : Location) :
    (d.withSettings dir s tree).tree.get? place =
      if place = d.settingsPlace dir then some (.file s.text.toUTF8) else tree.get? place :=
  tree.get?_insert _ place _ (by simp [settingsPlace])

theorem stays_of_mem_reverse_steps {dir : String} :
    ∀ x ∈ (Path.steps dir).reverse, Path.stays x = false :=
  fun _ hx => Path.stays_of_mem_steps (List.mem_reverse.mp hx)

theorem makeDirectories_of_accepted (h : checkPath (Path.withoutTail dir) = .ok ()) :
    d.makeDirectories dir =
      ({ d with tree := (FileTree.makeDirectories (d.origin dir) (Path.steps dir).reverse
          d.tree).1 },
        (FileTree.makeDirectories (d.origin dir) (Path.steps dir).reverse d.tree).2) := by
  simp only [makeDirectories, h]

theorem grows_makeDirectories_tree (d : Disk) (dir : String) :
    Grows d.tree (FileTree.makeDirectories (d.origin dir) (Path.steps dir).reverse d.tree).1
      (d.wayTo dir) := by
  have hgrows := @FileTree.makeDirectories_grows d.tree (d.origin dir) _
    (@stays_of_mem_reverse_steps dir)
  rwa [List.reverse_reverse] at hgrows

/-- Making a directory, the tree grows; without a directory to start from, it stays as it is. -/
theorem makeDirectories_grows (d : Disk) (dir : String) :
    ∃ tree result, d.makeDirectories dir = ({ d with tree }, result) ∧
      Grows d.tree tree (d.wayTo dir) ∧
      (d.tree.get? (d.origin dir) ≠ some .directory → tree = d.tree) ∧
      (result = .ok () → checkPath (Path.withoutTail dir) = .ok ()) := by
  cases hpath : checkPath (Path.withoutTail dir) with
  | error fault =>
    refine ⟨d.tree, .error fault, ?_, .refl _ _, fun _ => rfl, nofun⟩
    rw [makeDirectories, hpath]
  | ok u =>
    exact ⟨_, _, makeDirectories_of_accepted hpath, grows_makeDirectories_tree d dir,
      FileTree.makeDirectories_of_get?_base_ne, fun _ => rfl⟩

/-- If nothing worse than missing directories is in the way, the directory is made. -/
theorem makeDirectories_of_passable (hwf : d.tree.WellFormed)
    (hpath : checkPath (Path.withoutTail dir) = .ok ())
    (hpassable : d.tree.Passable (d.origin dir) (Path.steps dir)) :
    ∃ tree, d.makeDirectories dir = ({ d with tree }, .ok ()) ∧
      Grows d.tree tree (d.wayTo dir) ∧ ({ d with tree } : Disk).Open dir := by
  rw [← List.reverse_reverse (Path.steps dir)] at hpassable
  obtain ⟨hok, hopen⟩ := hpassable.makeDirectories hwf stays_of_mem_reverse_steps
  rw [List.reverse_reverse] at hopen
  refine ⟨_, ?_, grows_makeDirectories_tree d dir, hopen⟩
  rw [makeDirectories_of_accepted hpath, hok]

namespace Prepared

variable {tree : FileTree} {s : Settings}

/-- Saving gets through only if nothing worse than missing directories was in the way. -/
theorem passable (h : d.Prepared dir tree) :
    d.tree.Passable (d.origin dir) (Path.steps dir) := by
  obtain ⟨hnames, hway⟩ := open_iff.mp h.opened
  refine ⟨h.start, hnames, ?_⟩
  intro place hplace content hfile
  have hdir := hway place hplace
  rw [h.grows.file_iff.mpr hfile] at hdir
  cases hdir

end Prepared

end Disk

namespace Settings

open Disk

variable {d : Disk} {dir : String}

/-- How saving ends: with some directories made, or with the settings file written. -/
inductive SaveOutcome (d : Disk) (dir : String) (s : Settings) :
    Disk × Except IoFault Unit → Prop
  | failed {tree : FileTree} {fault : IoFault} (h : Grows d.tree tree (d.wayTo dir)) :
      SaveOutcome d dir s ({ d with tree }, .error fault)
  | saved {tree : FileTree} (h : d.Prepared dir tree) :
      SaveOutcome d dir s (d.withSettings dir s tree, .ok ())

theorem save_of_makeDirectories {s : Settings} {d' : Disk}
    (h : d.makeDirectories dir = (d', .ok ())) :
    s.save d dir =
      match d'.write (settingsPath dir) s.text with
      | .ok written => (written, .ok ())
      | .error fault => (d', .error fault) := by
  rw [save, h]
  rfl

theorem save_outcome (s : Settings) (d : Disk) (dir : String) :
    SaveOutcome d dir s (s.save d dir) := by
  obtain ⟨tree, result, hmake, hgrows, hstart, haccepted⟩ := makeDirectories_grows d dir
  cases result with
  | error fault =>
    rw [save, hmake]
    exact .failed hgrows
  | ok u =>
    rw [save_of_makeDirectories hmake]
    cases hwrite : Disk.write { d with tree } (settingsPath dir) s.text with
    | error fault => exact .failed hgrows
    | ok written =>
      obtain ⟨hpath, hopen, hfree, rfl⟩ := write_settingsPath_eq_ok_iff.mp hwrite
      refine .saved ⟨⟨haccepted rfl, hpath⟩, ?_, hgrows, hopen, hfree⟩
      -- The way is open from its start on, and without a start nothing would have been made.
      by_contra hbase
      have hopened := (open_iff.mp hopen).2 _ (Path.base_mem_way _ _)
      rw [hstart hbase] at hopened
      exact hbase hopened

/-- If nothing worse than missing directories is in the way, and no directory comes to stand in the
place of the settings file, the file is written. -/
theorem save_of_passable (s : Settings) (hwf : d.tree.WellFormed)
    (haccepted : checkPath (Path.withoutTail dir) = .ok () ∧ checkPath (settingsPath dir) = .ok ())
    (hpassable : d.tree.Passable (d.origin dir) (Path.steps dir))
    (hfree : ∀ tree, Grows d.tree tree (d.wayTo dir) →
      tree.get? (d.settingsPlace dir) ≠ some .directory) :
    ∃ tree, s.save d dir = (d.withSettings dir s tree, .ok ()) := by
  obtain ⟨tree, hmake, hgrows, hopen⟩ := makeDirectories_of_passable hwf haccepted.1 hpassable
  have hwrite : Disk.write { d with tree } (settingsPath dir) s.text =
      .ok (d.withSettings dir s tree) :=
    write_settingsPath_eq_ok_iff.mpr ⟨haccepted.2, hopen, hfree tree hgrows, rfl⟩
  exact ⟨tree, by rw [save_of_makeDirectories hmake, hwrite]⟩

end Settings

/-! ## Writing the settings file -/

open Disk

/-- The directory that is asked for. -/
def InitRequest.dir (r : InitRequest) : String := r.path.getD "."

variable {d : Disk} {r : InitRequest} {s : Settings}

/-- The two questions that are asked before anything is changed have the right answers: the target
is no regular file, and there is no settings file unless it may be replaced. -/
structure InitRequest.Proceeds (r : InitRequest) (d : Disk) : Prop where
  target : ∀ content, d.stat r.dir ≠ .ok (.file content)
  settings : d.pathExists (settingsPath r.dir) = true → r.force = true

/-- What is written when the settings file is. -/
def createdNote (dir : String) : Transcript :=
  [.log (.wroteSettings (settingsPath dir)), .out ("Created " ++ settingsPath dir ++ "\n")]

/-- How the command ends: refused at the first or at the second question, failed on the way, or with
the file written. -/
inductive InitOutcome (d : Disk) (r : InitRequest) (s : Settings) : Disk × Report Unit → Prop
  | notDirectory {content : ByteArray} (h : d.stat r.dir = .ok (.file content)) :
      InitOutcome d r s (d, .fail (.targetNotDirectory r.dir))
  | settingsExist (h : d.pathExists (settingsPath r.dir) = true) (hforce : r.force = false) :
      InitOutcome d r s (d, .fail (.settingsExist (settingsPath r.dir)))
  | failed {tree : FileTree} {fault : IoFault} (hproceeds : r.Proceeds d)
      (h : Grows d.tree tree (d.wayTo r.dir)) :
      InitOutcome d r s ({ d with tree }, .fail (.io fault))
  | written {tree : FileTree} (hproceeds : r.Proceeds d) (h : d.Prepared r.dir tree) :
      InitOutcome d r s (d.withSettings r.dir s tree, .write (createdNote r.dir))

theorem initSettings_eq (d : Disk) (r : InitRequest) (s : Settings) :
    initSettings d r s =
      if d.pathExists r.dir && !d.isDirectory r.dir then (d, .fail (.targetNotDirectory r.dir))
      else if d.pathExists (settingsPath r.dir) && !r.force then
        (d, .fail (.settingsExist (settingsPath r.dir)))
      else
        match s.save d r.dir with
        | (d, .error fault) => (d, .fail (.io fault))
        | (d, .ok ()) => (d, .write (createdNote r.dir)) := by
  simp only [initSettings, InitRequest.dir, settingsPath, createdNote]
  generalize s.save d (r.path.getD ".") = saved
  obtain ⟨d', fault | u⟩ := saved <;> rfl

theorem isFile_iff {path : String} : (d.pathExists path && !d.isDirectory path) = true ↔
    ∃ content, d.stat path = .ok (.file content) := by
  rw [pathExists, isDirectory]
  cases d.stat path with
  | error fault => simp [Except.isOk, Except.toBool]
  | ok e => cases e <;> simp [Except.isOk, Except.toBool]

theorem initSettings_of_proceeds (h : r.Proceeds d) :
    initSettings d r s =
      match s.save d r.dir with
      | (d, .error fault) => (d, .fail (.io fault))
      | (d, .ok ()) => (d, .write (createdNote r.dir)) := by
  have htarget : ¬∃ content, d.stat r.dir = .ok (.file content) := not_exists.mpr h.target
  have hsettings : ¬(d.pathExists (settingsPath r.dir) && !r.force) = true := by
    simpa using h.settings
  rw [initSettings_eq, if_neg (mt isFile_iff.mp htarget), if_neg hsettings]

/-- If nothing worse than missing directories is in the way, and no settings file is found that is
not to be replaced, the command succeeds. -/
theorem initSettings_of_passable (s : Settings) (hwf : d.tree.WellFormed)
    (haccepted : checkPath (Path.withoutTail r.dir) = .ok () ∧
      checkPath (settingsPath r.dir) = .ok ())
    (hpassable : d.tree.Passable (d.origin r.dir) (Path.steps r.dir))
    (hsettings : d.pathExists (settingsPath r.dir) = true → r.force = true)
    (hfree : ∀ tree, Grows d.tree tree (d.wayTo r.dir) →
      tree.get? (d.settingsPlace r.dir) ≠ some .directory) :
    ∃ tree, initSettings d r s = (d.withSettings r.dir s tree, .write (createdNote r.dir)) := by
  have hproceeds : r.Proceeds d := by
    refine ⟨fun content hfile => ?_, hsettings⟩
    exact hpassable.noFile _ (d.directoryPlace_mem_wayTo r.dir) content
      (get?_directoryPlace_of_stat hfile)
  obtain ⟨tree, hsave⟩ := s.save_of_passable hwf haccepted hpassable hfree
  exact ⟨tree, by rw [initSettings_of_proceeds hproceeds, hsave]⟩

theorem initSettings_outcome (d : Disk) (r : InitRequest) (s : Settings) :
    InitOutcome d r s (initSettings d r s) := by
  by_cases htarget : (d.pathExists r.dir && !d.isDirectory r.dir) = true
  · obtain ⟨content, hfile⟩ := isFile_iff.mp htarget
    rw [initSettings_eq, if_pos htarget]
    exact .notDirectory hfile
  by_cases hsettings : (d.pathExists (settingsPath r.dir) && !r.force) = true
  · rw [initSettings_eq, if_neg htarget, if_pos hsettings]
    simp only [Bool.and_eq_true, Bool.not_eq_true'] at hsettings
    exact .settingsExist hsettings.1 hsettings.2
  have hproceeds : r.Proceeds d :=
    ⟨fun content hfile => htarget (isFile_iff.mpr ⟨content, hfile⟩), by simpa using hsettings⟩
  have hsave := s.save_outcome d r.dir
  rw [initSettings_of_proceeds hproceeds]
  generalize s.save d r.dir = saved at hsave ⊢
  cases hsave with
  | failed hgrows => exact .failed hproceeds hgrows
  | saved hprepared => exact .written hproceeds hprepared

/-- What stands in the place of the settings file and is not to be replaced stays, unless something
on the way is missing: on an open way it would have been found. -/
theorem Disk.Prepared.gap {tree : FileTree} {e : Entry} (h : d.Prepared r.dir tree)
    (hproceeds : r.Proceeds d) (hforce : r.force = false)
    (hget : d.tree.get? (d.settingsPlace r.dir) = some e) :
    ∃ place ∈ d.wayTo r.dir, d.tree.get? place = none := by
  rcases open_or_gap h.passable with hopen | hgap
  · have hstat := stat_settingsPath_eq_ok_iff.mpr ⟨h.accepted.2, hopen, hget⟩
    have hreplace := hproceeds.settings (pathExists_iff.mpr ⟨e, hstat⟩)
    rw [hforce] at hreplace
    cases hreplace
  · exact hgap

end Lexeme
