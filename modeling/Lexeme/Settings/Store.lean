import Lexeme.Command.Failure
import Lexeme.Settings.Basic

/-!
# Settings on disk

Reading settings from a file, looking for the file in the places where it may be, and writing it.

## Main definitions

* `Settings.load`: the settings in a file.
* `Settings.loadFirst`: the settings in the first of several files that exists.
* `Settings.save`: writing settings, with the directories that are missing.
-/

namespace Lexeme

namespace Settings

/-- The settings in the file at `path`. -/
def load (d : Disk) (path : String) : Except Failure Settings :=
  if !d.pathExists path then .error (.settingsNotFound path)
  else
    match d.readText path with
    | .error fault => .error (.io fault)
    | .ok text =>
      match parse? text with
      | some s => .ok s
      | none => .error (.settingsMalformed path)

/-- The settings in the first of `paths` that exists, or the defaults. -/
def loadFirst (d : Disk) (paths : List String) : Except Failure Settings :=
  match paths.find? d.pathExists with
  | some path => load d path
  | none => .ok {}

/-- Writes settings to the file of the directory `dir`. -/
def save (s : Settings) (d : Disk) (dir : String) : Disk × Except IoFault Unit :=
  match d.makeDirectories dir with
  | (d, .error fault) => (d, .error fault)
  | (d, .ok ()) =>
    match d.write (Path.join dir fileName) s.text with
    | .ok d => (d, .ok ())
    | .error fault => (d, .error fault)

end Settings

end Lexeme
