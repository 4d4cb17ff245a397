import Lexeme.Command.Input

/-!
# Checking files

Every problem of every file. A file without problems gets a line on the output, a file with problems
has all of them rendered; the command fails if there was such a file.
-/

namespace Lexeme

/-- What is logged while a text is checked. -/
def checkEvents (text : String) : List Event :=
  (Lexer.ofString text).drain.flatMap Pull.strictEvents

/-- What the check of a file writes. -/
def checkWritings (file : SourceFile) : Transcript :=
  let report := check file.content
  if report.problems.isEmpty then
    [.out (file.name ++ ": ok (" ++ Text.decimal report.tokens ++ " tokens)\n")]
  else
    report.problems.map (fun p => .err (p.render file ++ "\n\n")) ++
      [.log (.problemsFound file.name report.problems.length)]

/-- Checks the files in order and counts those with problems. -/
def checkPaths (d : Disk) : List String → Report Nat
  | [] => pure 0
  | path :: paths => do
    let file ← readSource d path
    Report.write (.ofEvents (checkEvents file.content) ++ checkWritings file)
    let failed ← checkPaths d paths
    return if (check file.content).problems.isEmpty then failed else failed + 1

/-- Checks files. -/
def checkFiles (d : Disk) (paths : List String) : Report Unit := do
  let failed ← checkPaths d paths
  if failed > 0 then Report.fail (.problemsFound failed paths.length)

end Lexeme
