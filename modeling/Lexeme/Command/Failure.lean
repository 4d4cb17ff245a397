import Lexeme.FileTree.Basic
import Lexeme.Text.Decimal

/-!
# Failures of commands

Why a command did not do its work. Each failure belongs to a family, which opens its message.

## Main definitions

* `Failure`: the causes.
* `Failure.family`: where a cause belongs.
* `Failure.message`: the text shown to the user.
-/

namespace Lexeme

open Text

/-- Where a failure comes from. -/
inductive FailureFamily where
  | config
  | fileOperation
  | lex
  | io
deriving DecidableEq, Repr

namespace FailureFamily

/-- How the message of a failure begins. -/
def heading : FailureFamily → String
  | config => "Configuration error: "
  | fileOperation => "File operation failed: "
  | lex => "Lexing failed: "
  | io => "IO error: "

end FailureFamily

/-- Why a command failed. -/
inductive Failure where
  /-- There is no settings file at this path. -/
  | settingsNotFound (path : String)
  /-- The settings file at this path is no valid document, or has settings of a wrong kind. -/
  | settingsMalformed (path : String)
  /-- There is a settings file already. -/
  | settingsExist (path : String)
  | inputNotFound (path : String)
  /-- The input is a directory. -/
  | inputNotFile (path : String)
  | inputUnreadable (path : String) (fault : IoFault)
  /-- The place for the settings file is a regular file. -/
  | targetNotDirectory (path : String)
  /-- Strict scanning met a problem. -/
  | notTokenized (file : String)
  /-- Some of the files have problems. -/
  | problemsFound (failed total : Nat)
  | io (fault : IoFault)
deriving DecidableEq, Repr

namespace Failure

def family : Failure → FailureFamily
  | settingsNotFound _ | settingsMalformed _ | settingsExist _ => .config
  | inputNotFound _ | inputNotFile _ | inputUnreadable .. | targetNotDirectory _ => .fileOperation
  | notTokenized _ | problemsFound .. => .lex
  | io _ => .io

/-- The message without its heading. -/
def detail : Failure → String
  | settingsNotFound path => "Configuration file not found: " ++ path
  | settingsMalformed path => "Failed to parse " ++ path ++ ": TOML parse error"
  | settingsExist path => path ++ " already exists (use --force to overwrite)"
  | inputNotFound path => "Input path does not exist: " ++ path
  | inputNotFile path => "Input path is not a file: " ++ path
  | inputUnreadable path fault => "Failed to read " ++ path ++ ": " ++ fault.message
  | targetNotDirectory path => "Target path is not a directory: " ++ path
  | notTokenized file => "could not tokenize " ++ file
  | problemsFound failed total =>
    decimal failed ++ " of " ++ decimal total ++ " files had lexical errors"
  | io fault => fault.message

def message (f : Failure) : String := f.family.heading ++ f.detail

end Failure

end Lexeme
