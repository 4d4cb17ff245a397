import Lexeme.Proofs.SettingsFile

/-!
# Overwriting settings

A settings file is only to be replaced on demand. Whether there is one is asked before the missing
directories are made, and a path may lead through a missing directory and up again. The settings
file behind such a detour is not found, but when the directory on the detour has been made it is
written all the same. Nothing else that was there is ever changed, and a path that does not go up
makes no detour.

## Main definitions

* `Disk.Detours`: the path makes a detour to a settings file.

## Main statements

* `initSettings_keeps_files_iff`: files keep their content, detours apart.
* `initSettings_replaces_file`: a detour on which a file is lost.
-/

namespace Lexeme

open Disk
open FileTree (Grows)

variable {d : Disk} {dir : String} {r : InitRequest} {content : ByteArray}

/-- The path leads through something that is missing and back again, to a directory that has a
settings file. Nothing else is in the way. -/
structure Disk.Detours (d : Disk) (dir : String) (content : ByteArray) : Prop where
  accepted : checkPath (Path.withoutTail dir) = .ok () ∧ checkPath (settingsPath dir) = .ok ()
  passable : d.tree.Passable (d.origin dir) (Path.steps dir)
  gap : ∃ place ∈ d.wayTo dir, d.tree.get? place = none
  file : d.tree.get? (d.settingsPlace dir) = some (.file content)

namespace Disk.Detours

theorem up_mem (h : d.Detours dir content) (hwf : d.tree.WellFormed) : ".." ∈ Path.steps dir := by
  by_contra hup
  exact not_gap_of_get? hup hwf h.file h.gap

/-- Behind a detour the settings file is written, whether it may be replaced or not. -/
theorem written (h : d.Detours r.dir content) (hwf : d.tree.WellFormed) (s : Settings) :
    ∃ tree, initSettings d r s = (d.withSettings r.dir s tree, .write (createdNote r.dir)) := by
  apply initSettings_of_passable s hwf h.accepted h.passable
  · intro hexists
    exact absurd (open_of_pathExists hexists) (not_open_of_gap h.gap)
  · intro tree hgrows
    rw [hgrows.file_iff.mpr h.file]
    simp

end Disk.Detours

/-- Without force, all regular files keep their content, unless the path makes a detour to a
settings file that says something else. A detour goes up again somewhere. -/
theorem initSettings_keeps_files_iff (hd : d.tree.WellFormed) (path : Option String)
    (s : Settings) :
    ((∀ place content, d.tree.get? place = some (.file content) →
        (initSettings d ⟨path, false⟩ s).1.tree.get? place = some (.file content)) ↔
      ∀ content, d.Detours (path.getD ".") content → content = s.text.toUTF8) ∧
    ∀ content, d.Detours (path.getD ".") content → ".." ∈ Path.steps (path.getD ".") := by
  refine ⟨⟨?_, ?_⟩, fun content hdetour => hdetour.up_mem hd⟩
  · intro hkeeps content hdetour
    have hkept := hkeeps _ _ hdetour.file
    obtain ⟨tree, hinit⟩ := @Detours.written d ⟨path, false⟩ content hdetour hd s
    rw [hinit, get?_withSettings] at hkept
    simpa [InitRequest.dir, eq_comm] using hkept
  · intro hdetours place content hfile
    have houtcome := initSettings_outcome d ⟨path, false⟩ s
    generalize initSettings d ⟨path, false⟩ s = result at houtcome ⊢
    cases houtcome with
    | notDirectory | settingsExist => exact hfile
    | failed _ hgrows => exact hgrows.file_iff.mpr hfile
    | written hproceeds hprepared =>
      rw [get?_withSettings]
      split
      · next heq =>
        subst heq
        have hgap := hprepared.gap hproceeds rfl hfile
        rw [hdetours content ⟨hprepared.accepted, hprepared.passable, hgap, hfile⟩]
      · exact hprepared.grows.file_iff.mpr hfile

/-- A directory with a settings file. -/
def settledDisk : Disk where
  tree := ⟨[(["p"], .directory), (["p", "clext.toml"], .file "verbose = true\n".toUTF8)]⟩
  workingDirectory := []

theorem initSettings_keeps_files_of_settledDisk :
    settledDisk.tree.WellFormed ∧
      ∀ place content, settledDisk.tree.get? place = some (.file content) →
        (initSettings settledDisk ⟨some "p", false⟩ {}).1.tree.get? place =
          some (.file content) := by
  have hd : settledDisk.tree.WellFormed := FileTree.wellFormed_of_entries (by decide)
  refine ⟨hd, (initSettings_keeps_files_iff hd (some "p") {}).1.mpr ?_⟩
  intro content hdetour
  have hup := (initSettings_keeps_files_iff hd (some "p") {}).2 content hdetour
  exact absurd hup (by decide +kernel)

/-- The path to the directory leads through a directory that is missing, and its settings file is
replaced. -/
theorem initSettings_replaces_file :
    settledDisk.tree.WellFormed ∧
      settledDisk.tree.get? ["p", "clext.toml"] = some (.file "verbose = true\n".toUTF8) ∧
      (initSettings settledDisk ⟨some "new/../p", false⟩ {}).1.tree.get? ["p", "clext.toml"] ≠
        some (.file "verbose = true\n".toUTF8) :=
  ⟨FileTree.wellFormed_of_entries (by decide), by decide, by decide +kernel⟩

end Lexeme
