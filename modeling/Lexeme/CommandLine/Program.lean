import Lexeme.Command.Check
import Lexeme.Command.Count
import Lexeme.CommandLine.Arguments

/-!
# The program

One run of the program: it reads its arguments, loads the settings, does the task, and reports what
it wrote, its exit code and what it changed on disk.

## Main definitions

* `Invocation.paths`: what a run looks at on disk.
* `Invocation.perform`: the task with the settings.
* `runProgram`: a whole run.
-/

namespace Lexeme

/-- What a run leaves behind. -/
structure ProgramRun where
  disk : Disk
  code : Nat
  out : String
  err : String

/-- The program with its version; the name of a command is attached to its name. -/
def versionText (command : Option CommandName) : String :=
  "clext" ++ (command.elim "" fun name => "-" ++ name.text) ++ " 0.1.0\n"

/-- How the program is called. -/
def usageText : String :=
  "Usage: clext [-v] [-c PATH] [--no-color] COMMAND\n\n" ++
    "  tokens [-F text|json] [-s] FILE...   print the token stream of each file\n" ++
    "  stats [-F text|json] [-s] FILE...    count tokens per kind\n" ++
    "  check FILE...                        report every lexical error in each file\n" ++
    "  init [-p DIR] [-f]                   write a settings file\n"

/-- The settings for a run: from the file that was asked for, or from the usual places. -/
def loadSettings (d : Disk) (env : Environment) (config : Option String) :
    Except Failure Settings :=
  match config with
  | some path => Settings.load d path
  | none => Settings.loadFirst d env.settingsPaths

/-- Does a task. What the task leaves open comes from the settings. -/
def Task.perform (d : Disk) (s : Settings) : Task → Disk × Report Unit
  | .tokens paths format strict =>
    (d, listTokens d ⟨paths, format.getD s.format, strict || s.strict⟩)
  | .stats paths format strict =>
    (d, countTokens d ⟨paths, format.getD s.format, strict || s.strict⟩)
  | .check paths => (d, checkFiles d paths)
  | .init request => initSettings d request s

/-- The paths that a task looks at. -/
def Task.paths : Task → List String
  | .tokens paths _ _ | .stats paths _ _ | .check paths => paths
  | .init request =>
    let dir := request.path.getD "."
    [dir, Path.join dir Settings.fileName]

/-- The paths that an invocation looks at. -/
def Invocation.paths (env : Environment) (i : Invocation) : List String :=
  i.config.elim env.settingsPaths ([·]) ++ i.task.paths

/-- What the error output says at the end about a failure. -/
def failureText (f : Failure) : String := "error: " ++ f.message ++ "\n"

/-- Does what was asked for. -/
def Invocation.perform (d : Disk) (env : Environment) (i : Invocation) : ProgramRun :=
  match loadSettings d env i.config with
  | .error f => ⟨d, 1, "", failureText f⟩
  | .ok s =>
    let (d, report) := i.task.perform d s
    let err := report.transcript.errWithLog (env.threshold (i.verbose || s.verbose))
    match report.result with
    | .ok () => ⟨d, 0, report.transcript.out, err⟩
    | .error f => ⟨d, 1, report.transcript.out, err ++ failureText f⟩

/-- One run of the program. -/
def runProgram (d : Disk) (env : Environment) (args : List String) : ProgramRun :=
  match Invocation.parse env args with
  | .ok i => i.perform d env
  | .error .usage => ⟨d, 2, "", usageText⟩
  | .error (.version command) => ⟨d, 0, versionText command, ""⟩
  | .error .help => ⟨d, 0, usageText, ""⟩

end Lexeme
