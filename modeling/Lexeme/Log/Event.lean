import Lexeme.Scan.Problem
import Lexeme.Text.Terminal
import Lexeme.Token.Basic

/-!
# Log events

What the program tells about its own work. An event has a level, a message and named fields; the
line of a log is the level, the message and then the fields.

## Main definitions

* `Event`: everything that can be logged.
* `Event.level`, `Event.message`, `Event.fields`: its parts.
* `Event.line`: its line in a log.
* `LogLevel.admits`: which events a log of a given level shows.
-/

namespace Lexeme

open Text

/-- Levels of detail, from the finest to the gravest. -/
inductive LogLevel where
  | trace
  | debug
  | info
  | warn
  | error
deriving DecidableEq, Repr

namespace LogLevel

def name : LogLevel → String
  | trace => "TRACE"
  | debug => "DEBUG"
  | info => "INFO"
  | warn => "WARN"
  | error => "ERROR"

/-- A log of level `threshold` shows events that are at least as grave; a log that is off shows
none. -/
def admits (threshold : Option LogLevel) (level : LogLevel) : Bool :=
  match threshold with
  | none => false
  | some least => least.ctorIdx ≤ level.ctorIdx

end LogLevel

/-- The value of a field. In a log line names of files and texts of tokens are quoted. -/
inductive FieldValue where
  | number (n : Nat)
  | plain (text : String)
  | quoted (text : String)
deriving DecidableEq, Repr

namespace FieldValue

def text : FieldValue → String
  | number n => decimal n
  | plain text => text
  | quoted text => quotedString text

end FieldValue

/-- Everything that can be logged. -/
inductive Event where
  /-- A token was read. -/
  | token (t : Token)
  /-- The end of the input was reached for the first time, after `tokens` tokens. -/
  | endOfInput (tokens : Nat)
  /-- A strict read met a problem. -/
  | strictFailure (p : Problem)
  /-- A rendered warning. -/
  | warning (text : String)
  /-- A file was scanned leniently. -/
  | tokenized (file : String) (tokens warnings : Nat)
  /-- A file was read. -/
  | readInput (path : String) (bytes : Nat)
  /-- A file has problems. -/
  | problemsFound (file : String) (errors : Nat)
  /-- The settings were written. -/
  | wroteSettings (path : String)
deriving DecidableEq, Repr

namespace Event

def level : Event → LogLevel
  | token _ => .trace
  | endOfInput _ | strictFailure _ | tokenized .. | readInput .. | wroteSettings _ => .debug
  | problemsFound .. => .info
  | warning _ => .warn

def message : Event → String
  | token _ => "token"
  | endOfInput _ => "reached end of input"
  | strictFailure _ => "strict lexing failed"
  | warning text => text
  | tokenized .. => "tokenized"
  | readInput .. => "read input"
  | problemsFound .. => "lexical errors found"
  | wroteSettings _ => "wrote configuration"

def fields : Event → List (String × FieldValue)
  | token t =>
    [("kind", .plain t.kind.name), ("value", .quoted t.value), ("line", .number t.span.line),
      ("column", .number t.span.column)]
  | endOfInput tokens => [("tokens", .number tokens)]
  | strictFailure p =>
    [("error", .plain p.message), ("line", .number p.span.line), ("column", .number p.span.column)]
  | warning _ => []
  | tokenized file tokens warnings =>
    [("file", .quoted file), ("tokens", .number tokens), ("warnings", .number warnings)]
  | readInput path bytes => [("path", .plain path), ("bytes", .number bytes)]
  | problemsFound file errors => [("file", .quoted file), ("errors", .number errors)]
  | wroteSettings path => [("path", .plain path)]

/-- The line of a log: the level in five columns, the message, the fields, and a line feed. Controls
are spelt out in the message only. -/
def line (e : Event) : String :=
  padLeft 5 ' ' e.level.name ++ " " ++ spellControls e.message ++
    String.join (e.fields.map fun (name, value) => " " ++ name ++ "=" ++ value.text) ++ "\n"

end Event

end Lexeme
