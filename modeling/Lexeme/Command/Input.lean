import Lexeme.Command.Transcript
import Lexeme.Scan.Lexer

/-!
# Input files of commands

Reading a file and scanning it, as the commands that list and count tokens do.

## Main definitions

* `readSource`: a path as a source file.
* `scanFile`: the tokens of a file, leniently or strictly.
* `scanPaths`: the tokens of several files, up to the first failure.
-/

namespace Lexeme

/-- The file at `path`, named like it. -/
def readSource (d : Disk) (path : String) : Report SourceFile :=
  if !d.pathExists path then .fail (.inputNotFound path)
  else if !d.isFile path then .fail (.inputNotFile path)
  else
    match d.readText path with
    | .error fault => .fail (.inputUnreadable path fault)
    | .ok text => ⟨[.log (.readInput path text.utf8ByteSize)], .ok ⟨path, text⟩⟩

/-- The tokens of a file without problems; the first problem is written out and ends the work. -/
def scanStrictly (file : SourceFile) : Report (List Token) :=
  let pulls := strictPulls (Lexer.ofString file.content).drain
  let log := Transcript.ofEvents (pulls.flatMap Pull.strictEvents)
  match tokenizeStrict file.content with
  | .ok tokens => ⟨log, .ok tokens⟩
  | .error p => ⟨log ++ [.err (p.render file ++ "\n")], .error (.notTokenized file.name)⟩

/-- The tokens of a file; its problems are logged as warnings. -/
def scanLeniently (file : SourceFile) : Report (List Token) :=
  let pulls := (Lexer.ofString file.content).drain
  let (tokens, h) := tokenizeWith .empty file.content
  ⟨Transcript.ofEvents (pulls.flatMap Pull.events ++
      h.take.1.map (fun d => .warning (d.render file)) ++
      [.tokenized file.name tokens.length h.warningCount]),
    .ok tokens⟩

def scanFile (strict : Bool) (file : SourceFile) : Report (List Token) :=
  if strict then scanStrictly file else scanLeniently file

/-- A file and its tokens. -/
structure ScannedFile where
  name : String
  tokens : List Token
deriving DecidableEq, Repr

def scanPath (d : Disk) (strict : Bool) (path : String) : Report ScannedFile := do
  let file ← readSource d path
  return ⟨file.name, ← scanFile strict file⟩

/-- Scans the files in order and writes `listing index file` for each of them, counting from
`index`; the first failure ends it. -/
def scanPaths (d : Disk) (strict : Bool) (listing : Nat → ScannedFile → Transcript) (index : Nat) :
    List String → Report (List ScannedFile)
  | [] => pure []
  | path :: paths => do
    let file ← scanPath d strict path
    Report.write (listing index file)
    return file :: (← scanPaths d strict listing (index + 1) paths)

/-- The line above the listing of one of several files. -/
def header (name : String) : String := "==> " ++ name ++ " <==\n"

end Lexeme
