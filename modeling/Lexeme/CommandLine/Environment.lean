import Lexeme.FileTree.Path
import Lexeme.Log.Event
import Lexeme.Settings.Basic

/-!
# The environment

The variables that a program is started with, and what the program takes from them: defaults for
some options, the directories of the user, and the level of the log.

## Main definitions

* `Environment.settingsPaths`: where settings are looked for.
* `Environment.threshold`: the level of the log.
-/

namespace Lexeme

/-- Variables with their values; of two with one name the first counts. -/
abbrev Environment := List (String × String)

namespace Environment

/-- The variables that the program reads. -/
def names : List String :=
  ["CLEXT_VERBOSE", "CLEXT_NO_COLOR", "CLEXT_CONFIG", "HOME", "XDG_CONFIG_HOME", "RUST_LOG"]

def get? (env : Environment) (name : String) : Option String := env.lookup name

/-- The home directory of the user. -/
def home? (env : Environment) : Option String := (env.get? "HOME").filter (· != "")

/-- The directory for settings of the user: an absolute path given for it, or one inside the home
directory. -/
def configHome? (env : Environment) : Option String :=
  match (env.get? "XDG_CONFIG_HOME").filter Path.isAbsolute with
  | some dir => some dir
  | none => env.home?.map (Path.join · ".config")

/-- The places in which settings are looked for, best first. -/
def settingsPaths (env : Environment) : List String :=
  let inside (dir : String) := Path.join (Path.join dir "clext") Settings.fileName
  Settings.fileName :: (env.home?.map fun dir => inside (Path.join dir ".config")).toList ++
    (env.configHome?.map inside).toList

/-- A level by its name, in any case, or its number; what is no level shows nothing. -/
def levelOf (directive : String) : Option LogLevel :=
  match directive.toLower with
  | "trace" | "5" => some .trace
  | "debug" | "4" => some .debug
  | "info" | "3" => some .info
  | "warn" | "2" => some .warn
  | "error" | "1" | "" => some .error
  | _ => none

/-- The level of the log: the one asked for by a variable, or else more or less detail. -/
def threshold (env : Environment) (verbose : Bool) : Option LogLevel :=
  match env.get? "RUST_LOG" with
  | some directive => levelOf directive
  | none => some (if verbose then .debug else .info)

end Environment

end Lexeme
