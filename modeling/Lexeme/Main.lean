import Lexeme.CommandLine.Program

/-!
# The executable

Takes what the run may look at from the real disk, runs the program on it, writes what the run
wrote, and carries its changes over to the disk.
-/

namespace Lexeme

/-- The variables of the process that matter. -/
def currentEnvironment : IO Environment :=
  Environment.names.filterMapM fun name => do return (← IO.getEnv name).map (name, ·)

/-- What stands at a path of the real disk. -/
def currentEntry (path : String) : IO (Option Entry) := do
  let file := (← IO.currentDir) / path
  if ← file.isDir then return some .directory
  else if ← file.pathExists then return some (.file (← IO.FS.readBinFile file))
  else return none

/-- Adds what stands at a path and on the way to it. -/
def addPath (d : Disk) (path : String) : IO Disk := do
  let pieces := Path.pieces path
  let mut tree := d.tree
  for count in [1:pieces.length + 1] do
    let way := pieces.take count
    match tree.walk (d.origin path) way, ← currentEntry ("/".intercalate way) with
    | .ok place, some entry =>
      if place ≠ [] ∧ (tree.get? place).isNone then tree := tree.insert place entry
    | _, _ => pure ()
  return { d with tree }

/-- The part of the real disk that some paths lead through. -/
def currentDisk (paths : List String) : IO Disk := do
  let here := toString (← IO.currentDir)
  let base ← addPath ⟨.empty, []⟩ here
  paths.foldlM addPath { base with workingDirectory := Path.steps here }

/-- Makes an entry of a tree on the real disk. -/
def carryOver (place : Location) (e : Entry) : IO Unit := do
  let path := "/" ++ "/".intercalate place
  match e with
  | .directory => IO.FS.createDirAll path
  | .file content => IO.FS.writeBinFile path content

end Lexeme

open Lexeme

def main (args : List String) : IO UInt32 := do
  let env ← currentEnvironment
  let paths :=
    match Invocation.parse env args with
    | .ok i => i.paths env
    | .error _ => []
  let disk ← currentDisk paths
  let run := runProgram disk env args
  let made := run.disk.tree.entries.take
    (run.disk.tree.entries.length - disk.tree.entries.length)
  made.reverse.forM fun (place, e) => carryOver place e
  IO.print run.out
  IO.eprint run.err
  return UInt32.ofNat run.code
