import Lexeme.Proofs.SettingsFile

/-!
# The effect of writing the settings file

On a path that does not go up, the command that writes the settings file does what it says. It is
refused if the target is a regular file, or if there is a settings file that is not to be replaced;
it succeeds if nothing else is in the way; and then it has made the settings file and the
directories above it and has left everything else alone. A failure on the way leaves all files as
they were.

## Main definitions

* `InitRequest.Writable`: nothing is in the way of the settings file.
* `Disk.Settled`: a disk on which nothing has changed but the settings file and the directories
  above it.
* `InitEffect`: what the command does to the disk and what it reports.

## Main statements

* `initSettings_effect`: the effect of the command.
-/

namespace Lexeme

open Disk
open FileTree (Grows)

variable {d : Disk} {dir : String} {r : InitRequest} {s : Settings} {tree : FileTree}

/-! ## Reading back -/

theorem Settings.load_of_stat {path : String} (h : d.stat path = .ok (.file s.text.toUTF8)) :
    Settings.load d path = .ok s := by
  have hread : d.readText path = .ok s.text := by
    simp only [readText, h, bind, Except.bind, Text.fromUTF8?_toUTF8]
  simp [load, pathExists_iff.mpr ⟨_, h⟩, hread, parse?_text]

/-! ## Refusals -/

theorem initSettings_of_isFile (h : (d.pathExists r.dir && !d.isDirectory r.dir) = true) :
    initSettings d r s = (d, .fail (.targetNotDirectory r.dir)) := by
  rw [initSettings_eq, if_pos h]

theorem initSettings_of_pathExists (h : d.pathExists (settingsPath r.dir) = true)
    (hforce : r.force = false) :
    initSettings d r s = (d, .fail (.settingsExist (settingsPath r.dir))) := by
  have htarget : ¬(d.pathExists r.dir && !d.isDirectory r.dir) = true := by
    intro hfile
    obtain ⟨content, hstat⟩ := isFile_iff.mp hfile
    exact (open_of_pathExists h).stat_ne content hstat
  rw [initSettings_eq, if_neg htarget, if_pos (by simp [h, hforce])]

/-! ## Success -/

/-- Nothing is in the way of the settings file: the path is accepted, there is neither a file nor a
long name on the way, and a settings file that is there may be replaced. -/
structure InitRequest.Writable (r : InitRequest) (d : Disk) : Prop where
  accepted : checkPath (Path.withoutTail r.dir) = .ok () ∧ checkPath (settingsPath r.dir) = .ok ()
  passable : d.tree.Passable (d.origin r.dir) (Path.steps r.dir)
  noDirectory : d.tree.get? (d.settingsPlace r.dir) ≠ some .directory
  replaceable : ∀ content, d.tree.get? (d.settingsPlace r.dir) = some (.file content) →
    r.force = true

/-- `after` is `d` with a file at `target` and directories above it. -/
structure Disk.Settled (d after : Disk) (target : Location) (content : ByteArray) : Prop where
  workingDirectory : after.workingDirectory = d.workingDirectory
  file : after.tree.get? target = some (.file content)
  above : ∀ place, place <+: target → place ≠ target → after.tree.get? place = some .directory
  /-- Besides the file, only what is missing above it is new. -/
  frame : ∀ place, place ≠ target → ¬(place <+: target ∧ d.tree.get? place = none) →
    after.tree.get? place = d.tree.get? place

namespace Disk

/-- On a path that does not go up, no directory is made in the place of the settings file. -/
theorem get?_settingsPlace_of_grows (hup : ".." ∉ Path.steps dir)
    (h : Grows d.tree tree (d.wayTo dir)) :
    tree.get? (d.settingsPlace dir) = d.tree.get? (d.settingsPlace dir) := by
  obtain heq | ⟨hmem, -⟩ := h.get?_eq (d.settingsPlace dir)
  · exact heq
  · exact absurd rfl (isPrefix_of_mem_wayTo hup hmem).2

namespace Prepared

theorem settled (h : d.Prepared dir tree) (hup : ".." ∉ Path.steps dir) (hwf : d.tree.WellFormed) :
    d.Settled (d.withSettings dir s tree) (d.settingsPlace dir) s.text.toUTF8 := by
  have hfile : ∀ place, place ≠ d.settingsPlace dir →
      (d.withSettings dir s tree).tree.get? place = tree.get? place := by
    intro place hne
    rw [get?_withSettings, if_neg hne]
  refine ⟨rfl, by rw [get?_withSettings, if_pos rfl], ?above, ?frame⟩
  case above =>
    intro place hplace hne
    rw [hfile place hne]
    have hdirectory : tree.get? (d.directoryPlace dir) = some .directory :=
      h.opened.get?_directoryPlace
    have habove : place <+: d.directoryPlace dir := by
      rw [settingsPlace, List.prefix_concat_iff] at hplace
      exact hplace.resolve_left hne
    by_cases heq : place = d.directoryPlace dir
    · rw [heq, hdirectory]
    · exact (h.grows.wellFormed hwf).get?_of_isPrefix hdirectory habove heq
  case frame =>
    intro place hne hframe
    rw [hfile place hne]
    obtain heq | ⟨hmem, hmissing, -⟩ := h.grows.get?_eq place
    · exact heq
    · exact absurd ⟨(isPrefix_of_mem_wayTo hup hmem).1, hmissing⟩ hframe

/-- What was written is found where it was written. -/
theorem stat_settingsPath (h : d.Prepared dir tree) (hup : ".." ∉ Path.steps dir) :
    (d.withSettings dir s tree).stat (settingsPath dir) = .ok (.file s.text.toUTF8) := by
  apply stat_settingsPath_eq_ok_iff.mpr
  refine ⟨h.accepted.2, open_iff.mpr ⟨(open_iff.mp h.opened).1, ?_⟩, ?_⟩
  · intro place hplace
    have hne : place ≠ d.settingsPlace dir := (isPrefix_of_mem_wayTo hup hplace).2
    rw [get?_withSettings, if_neg hne]
    exact (open_iff.mp h.opened).2 place hplace
  · exact (get?_withSettings (d.settingsPlace dir)).trans (if_pos rfl)

theorem writable (h : d.Prepared r.dir tree) (hproceeds : r.Proceeds d)
    (hup : ".." ∉ Path.steps r.dir) (hwf : d.tree.WellFormed) : r.Writable d := by
  refine ⟨h.accepted, h.passable, ?_, ?_⟩
  · rw [← get?_settingsPlace_of_grows hup h.grows]
    exact h.free
  · intro content hfile
    by_contra hforce
    have hgap := h.gap hproceeds (by simpa using hforce) hfile
    exact not_gap_of_get? hup hwf hfile hgap

end Prepared

end Disk

theorem InitRequest.Writable.written (h : r.Writable d) (hup : ".." ∉ Path.steps r.dir)
    (hwf : d.tree.WellFormed) (s : Settings) :
    ∃ tree, initSettings d r s = (d.withSettings r.dir s tree, .write (createdNote r.dir)) := by
  apply initSettings_of_passable s hwf h.accepted h.passable
  · intro hexists
    obtain ⟨e, he⟩ := pathExists_iff.mp hexists
    have hget := (stat_settingsPath_eq_ok_iff.mp he).2.2
    cases e with
    | file content => exact h.replaceable content hget
    | directory => exact absurd hget h.noDirectory
  · intro tree hgrows
    rw [get?_settingsPlace_of_grows hup hgrows]
    exact h.noDirectory

/-! ## The effect -/

/-- What the command does: the disk `after` it, and its report. -/
structure InitEffect (d : Disk) (r : InitRequest) (s : Settings) (after : Disk)
    (report : Report Unit) : Prop where
  /-- A target that is there and is no directory is left alone. -/
  notDirectory : d.pathExists r.dir = true → d.isDirectory r.dir = false →
    after = d ∧ ∃ f, report.result = .error f ∧ f.family = .fileOperation
  /-- So are settings that are not to be replaced. -/
  settingsExist : d.pathExists (settingsPath r.dir) = true → r.force = false →
    after = d ∧ ∃ f, report.result = .error f ∧ f.family = .config
  /-- A failure changes no file and writes nothing. -/
  failure : ∀ f, report.result = .error f →
    report.transcript.out = "" ∧
      ∀ place content, after.tree.get? place = some (.file content) ↔
        d.tree.get? place = some (.file content)
  success_iff : report.result = .ok () ↔ r.Writable d
  /-- The settings file is new, reads back, and is not replaced by a second run. -/
  success : report.result = .ok () →
    d.Settled after (d.settingsPlace r.dir) s.text.toUTF8 ∧
      Settings.load after (settingsPath r.dir) = .ok s ∧
      ∀ s', ∃ f, initSettings after ⟨r.path, false⟩ s' = (after, .fail f) ∧ f.family = .config

theorem file_iff_of_error {f : Failure} (h : (initSettings d r s).2.result = .error f) :
    (initSettings d r s).2.transcript.out = "" ∧
      ∀ place content, (initSettings d r s).1.tree.get? place = some (.file content) ↔
        d.tree.get? place = some (.file content) := by
  have houtcome := initSettings_outcome d r s
  generalize initSettings d r s = ended at h houtcome ⊢
  cases houtcome with
  | notDirectory | settingsExist => exact ⟨rfl, fun _ _ => .rfl⟩
  | failed _ hgrows => exact ⟨rfl, fun _ _ => hgrows.file_iff⟩
  | written => cases h

theorem exists_prepared_of_ok (h : (initSettings d r s).2.result = .ok ()) :
    r.Proceeds d ∧ ∃ tree, d.Prepared r.dir tree ∧
      (initSettings d r s).1 = d.withSettings r.dir s tree := by
  have houtcome := initSettings_outcome d r s
  generalize initSettings d r s = ended at h houtcome ⊢
  cases houtcome with
  | notDirectory | settingsExist | failed => cases h
  | written hproceeds hprepared => exact ⟨hproceeds, _, hprepared, rfl⟩

theorem initSettings_effect (hd : d.tree.WellFormed) (r : InitRequest)
    (hup : ".." ∉ Path.steps r.dir) (s : Settings) :
    InitEffect d r s (initSettings d r s).1 (initSettings d r s).2 := by
  refine ⟨?notDirectory, ?settingsExist, fun f => file_iff_of_error, ⟨?writable, ?written⟩,
    ?success⟩
  case notDirectory =>
    intro hexists hdirectory
    rw [initSettings_of_isFile (by simp [hexists, hdirectory])]
    exact ⟨rfl, _, rfl, rfl⟩
  case settingsExist =>
    intro hexists hforce
    rw [initSettings_of_pathExists hexists hforce]
    exact ⟨rfl, _, rfl, rfl⟩
  case writable =>
    intro hok
    obtain ⟨hproceeds, tree, hprepared, -⟩ := exists_prepared_of_ok hok
    exact hprepared.writable hproceeds hup hd
  case written =>
    intro hwritable
    obtain ⟨tree, heq⟩ := hwritable.written hup hd s
    rw [heq]
    rfl
  case success =>
    intro hok
    obtain ⟨-, tree, hprepared, hafter⟩ := exists_prepared_of_ok hok
    have hstat := @Prepared.stat_settingsPath d r.dir s tree hprepared hup
    rw [hafter]
    refine ⟨hprepared.settled hup hd, Settings.load_of_stat hstat, fun s' => ?_⟩
    have hexists := pathExists_iff.mpr ⟨_, hstat⟩
    exact ⟨_, @initSettings_of_pathExists _ ⟨r.path, false⟩ s' hexists rfl, rfl⟩

/-- A directory with one source file. -/
def projectDisk : Disk where
  tree := ⟨[(["p"], .directory), (["p", "a.cs"], .file "x".toUTF8)]⟩
  workingDirectory := ["p"]

theorem initSettings_effect_below_projectDisk :
    projectDisk.tree.WellFormed ∧ ".." ∉ Path.steps "./q/r" ∧
      (initSettings projectDisk ⟨some "./q/r", false⟩ {}).2.result = .ok () ∧
      projectDisk.Settled (initSettings projectDisk ⟨some "./q/r", false⟩ {}).1
        ["p", "q", "r", "clext.toml"] ({} : Settings).text.toUTF8 := by
  have hd : projectDisk.tree.WellFormed := FileTree.wellFormed_of_entries (by decide)
  have hup : ".." ∉ Path.steps "./q/r" := by decide +kernel
  have hok : (initSettings projectDisk ⟨some "./q/r", false⟩ {}).2.result = .ok () := by
    decide +kernel
  have heffect := initSettings_effect hd ⟨some "./q/r", false⟩ hup {}
  have hplace : projectDisk.settingsPlace "./q/r" = ["p", "q", "r", "clext.toml"] := by
    decide +kernel
  refine ⟨hd, hup, hok, ?_⟩
  rw [← hplace]
  exact (heffect.success hok).1

end Lexeme
