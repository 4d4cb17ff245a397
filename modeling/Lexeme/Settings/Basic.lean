import Lexeme.Toml.Document

/-!
# Settings

What can be configured: the detail of the log, whether problems are errors, and the format of
listings. Settings are kept in a TOML file; what a file does not say has its default.

## Main definitions

* `Settings.parse?`: the settings that a text gives.
* `Settings.text`: the text that gives some settings.
-/

namespace Lexeme

open Toml (Value)

/-- The formats of listings. -/
inductive OutputFormat where
  | text
  | json
deriving DecidableEq, Repr, Inhabited

namespace OutputFormat

def name : OutputFormat → String
  | text => "text"
  | json => "json"

/-- The format with exactly this name. -/
def ofName? (name : String) : Option OutputFormat :=
  if name = "text" then some text else if name = "json" then some json else none

end OutputFormat

/-- The settings. -/
structure Settings where
  verbose : Bool := false
  strict : Bool := false
  format : OutputFormat := .text
deriving DecidableEq, Repr, Inhabited

namespace Settings

/-- The name of the file that holds settings. -/
def fileName : String := "clext.toml"

def readBool : Value → Option Bool
  | .boolean b => some b
  | _ => none

/-- A format is given by its name, or by a table with that name as its only key and nothing
under it. -/
def readFormat : Value → Option OutputFormat
  | .string name => OutputFormat.ofName? name
  | .table [(name, v)] => if v.isEmpty then OutputFormat.ofName? name else none
  | _ => none

/-- An optional value with its default. -/
def readOr (default : α) (read : Value → Option α) : Option Value → Option α
  | none => some default
  | some v => read v

/-- A section with one setting. It is a table, or an array with the setting in front; a date counts
as a table without known keys. -/
def readSection (key : String) (default : α) (read : Value → Option α) : Value → Option α
  | .table fields => readOr default read (Value.lookup key fields)
  | .array items => readOr default read items.head?
  | .date _ => some default
  | _ => none

/-- The settings in the table of a document. Other keys do not matter. -/
def ofTable? (fields : List (String × Value)) : Option Settings := do
  let verbose ← readOr false readBool (Value.lookup "verbose" fields)
  let strict ← readOr false (readSection "strict" false readBool) (Value.lookup "lexer" fields)
  let format ←
    readOr .text (readSection "format" .text readFormat) (Value.lookup "output" fields)
  return { verbose, strict, format }

/-- The settings that a text gives, if it is a valid document with settings of the right kinds. -/
def parse? (text : String) : Option Settings := do ofTable? (← Toml.parse? text)

def boolText : Bool → String
  | true => "true"
  | false => "false"

/-- The text of the file that holds the settings. -/
def text (s : Settings) : String :=
  "verbose = " ++ boolText s.verbose ++ "\n\n[lexer]\nstrict = " ++ boolText s.strict ++
    "\n\n[output]\nformat = \"" ++ s.format.name ++ "\"\n"

end Settings

end Lexeme
