import Lexeme.Command.Tokens
import Lexeme.Token.Tally

/-!
# Counting tokens

The tally of each file and, in a text listing of several files, of all of them together. Nothing is
written before all files were scanned.
-/

namespace Lexeme

/-- The tallies of files together. -/
def combinedTally (tallies : List Tally) : Tally :=
  tallies.foldl Tally.merge (.ofTokens "all files" [])

/-- A single table stands alone; several have headers and are followed by their sum. -/
def tallyText (tallies : List Tally) : String :=
  match tallies with
  | [single] => single.table
  | _ =>
    let all := combinedTally tallies
    String.join (tallies.map fun t => header t.file ++ t.table ++ "\n") ++ header all.file ++
      all.table

def tallyJsonText (tallies : List Tally) : String :=
  match tallies with
  | [single] => single.toJson.pretty ++ "\n"
  | _ => (Json.array (tallies.map Tally.toJson)).pretty ++ "\n"

/-- Counts the tokens of files. -/
def countTokens (d : Disk) (r : ScanRequest) : Report Unit := do
  let files ← scanPaths d r.strict (fun _ _ => []) 0 r.paths
  let tallies := files.map fun f => Tally.ofTokens f.name f.tokens
  match r.format with
  | .text => Report.write [.out (tallyText tallies)]
  | .json => Report.write [.out (tallyJsonText tallies)]

end Lexeme
