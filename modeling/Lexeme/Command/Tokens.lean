import Lexeme.Command.Input
import Lexeme.Settings.Basic

/-!
# Listing tokens

The tokens of each file, one a line, or all of them as JSON. A text listing is written file by file;
JSON is written once all files were scanned.
-/

namespace Lexeme

/-- What the commands that scan files are asked to do. -/
structure ScanRequest where
  paths : List String
  format : OutputFormat
  strict : Bool
deriving DecidableEq, Repr

/-- The tokens of a file, one a line. -/
def tokenLines (tokens : List Token) : String :=
  String.join (tokens.map fun t => t.display ++ "\n")

/-- The listing of one file. Several files have headers, and empty lines between them. -/
def tokenBlock (several : Bool) (index : Nat) (file : ScannedFile) : String :=
  (if several then (if index > 0 then "\n" else "") ++ header file.name else "") ++
    tokenLines file.tokens

def tokensJson (tokens : List Token) : Json := .array (tokens.map Token.toJson)

/-- The JSON listing: the tokens of a single file, or a list of files with their tokens. -/
def tokensJsonText (several : Bool) (files : List ScannedFile) : String :=
  if several then
    Json.pretty <| .array <| files.map fun f =>
      .object [("file", .string f.name), ("tokens", tokensJson f.tokens)]
  else
    match files with
    | [] => ""
    | file :: _ => (tokensJson file.tokens).pretty

/-- Lists the tokens of files. -/
def listTokens (d : Disk) (r : ScanRequest) : Report Unit :=
  let several := decide (r.paths.length > 1)
  match r.format with
  | .text => do
    let _ ← scanPaths d r.strict (fun i f => [.out (tokenBlock several i f)]) 0 r.paths
  | .json => do
    let files ← scanPaths d r.strict (fun _ _ => []) 0 r.paths
    Report.write [.out (tokensJsonText several files ++ "\n")]

end Lexeme
