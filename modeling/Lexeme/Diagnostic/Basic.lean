import Lexeme.Diagnostic.Code
import Lexeme.Source.File

/-!
# Diagnostics

A diagnostic is a message about a place in a source file, with notes, advice and snippets. It is
rendered as a heading, an arrow to the place, the snippets, the notes and the advice, in that order.

## Main definitions

* `Diagnostic`: the message with all that belongs to it.
* `Diagnostic.build`: a diagnostic put together detail by detail.
* `Diagnostic.build_eq`: what it then holds.
* `Diagnostic.heading`: its one-line form.
* `Diagnostic.render`: its full form against a source file.
-/

namespace Lexeme

open Text

/-- How grave a diagnostic is. -/
inductive Severity where
  | error
  | warning
deriving DecidableEq, Repr, Inhabited

namespace Severity

def text : Severity → String
  | error => "error"
  | warning => "warning"

end Severity

/-- A message about a place in a source file. -/
structure Diagnostic where
  severity : Severity
  message : String
  span : Span := Span.unplaced
  code : Option DiagnosticCode := none
  notes : List String := []
  helps : List String := []
  snippets : List Snippet := []
deriving DecidableEq, Repr, Inhabited

namespace Diagnostic

def isError (d : Diagnostic) : Bool := d.severity = .error

def isWarning (d : Diagnostic) : Bool := d.severity = .warning

def addNote (d : Diagnostic) (note : String) : Diagnostic := { d with notes := d.notes ++ [note] }

def addHelp (d : Diagnostic) (help : String) : Diagnostic := { d with helps := d.helps ++ [help] }

def addSnippet (d : Diagnostic) (snippet : Snippet) : Diagnostic :=
  { d with snippets := d.snippets ++ [snippet] }

/-- What can be added to a diagnostic. -/
inductive Detail where
  | code (code : DiagnosticCode)
  | span (span : Span)
  | note (text : String)
  | help (text : String)
  | snippet (snippet : Snippet)
deriving DecidableEq, Repr

namespace Detail

@[simp]
def code? : Detail → Option DiagnosticCode
  | .code c => some c
  | _ => none

@[simp]
def span? : Detail → Option Span
  | .span place => some place
  | _ => none

@[simp]
def note? : Detail → Option String
  | .note text => some text
  | _ => none

@[simp]
def help? : Detail → Option String
  | .help text => some text
  | _ => none

@[simp]
def snippet? : Detail → Option Snippet
  | .snippet s => some s
  | _ => none

end Detail

/-- Adds a detail. There is one code and one span, so a new one takes the place of the old one;
notes, advice and snippets are added behind what is there. -/
def add (d : Diagnostic) : Detail → Diagnostic
  | .code code => { d with code := some code }
  | .span span => { d with span := span }
  | .note text => d.addNote text
  | .help text => d.addHelp text
  | .snippet snippet => d.addSnippet snippet

/-- A diagnostic with these details, added in order. -/
def build (severity : Severity) (message : String) (details : List Detail) : Diagnostic :=
  details.foldl add { severity, message }

/-- Of codes and spans the last one stays, and the old one if there is none; notes, advice and
snippets are all kept, in order. -/
theorem foldl_add (d : Diagnostic) (details : List Detail) :
    details.foldl add d =
      { d with
        span := (details.filterMap Detail.span?).getLast?.getD d.span
        code := (details.filterMap Detail.code?).getLast?.or d.code
        notes := d.notes ++ details.filterMap Detail.note?
        helps := d.helps ++ details.filterMap Detail.help?
        snippets := d.snippets ++ details.filterMap Detail.snippet? } := by
  induction details generalizing d with
  | nil => simp
  | cons detail details ih =>
    rw [List.foldl_cons, ih]
    cases detail with
    | code code =>
      simp only [add, List.filterMap_cons, Detail.code?, Detail.span?, Detail.note?, Detail.help?,
        Detail.snippet?, List.getLast?_cons]
      cases (details.filterMap Detail.code?).getLast? <;> rfl
    | span span =>
      simp only [add, List.filterMap_cons, Detail.code?, Detail.span?, Detail.note?, Detail.help?,
        Detail.snippet?, List.getLast?_cons]
      cases (details.filterMap Detail.span?).getLast? <;> rfl
    | _ => simp [add, addNote, addHelp, addSnippet, List.filterMap_cons]

theorem build_eq (severity : Severity) (message : String) (details : List Detail) :
    build severity message details =
      { severity
        message
        span := (details.filterMap Detail.span?).getLast?.getD Span.unplaced
        code := (details.filterMap Detail.code?).getLast?
        notes := details.filterMap Detail.note?
        helps := details.filterMap Detail.help?
        snippets := details.filterMap Detail.snippet? } := by
  simp [build, foldl_add]

/-- The severity, the code in brackets if there is one, and the message. -/
def heading (d : Diagnostic) : String :=
  match d.code with
  | some code => d.severity.text ++ "[" ++ code.text ++ "]: " ++ d.message
  | none => d.severity.text ++ ": " ++ d.message

/-- The line that points to the place. -/
def placeLine (d : Diagnostic) (file : SourceFile) : String :=
  " --> " ++ file.name ++ ":" ++ decimal d.span.line ++ ":" ++ decimal d.span.column

/-- The snippets to show: the diagnostic's own or, if it has none, the line of its span, provided
that the span lies in the file. -/
def shownSnippets (d : Diagnostic) (file : SourceFile) : List Snippet :=
  if d.snippets.isEmpty then
    match file.snippet d.span none with
    | .ok snippet => [snippet]
    | .error _ => []
  else d.snippets

/-- The parts of the full form, from top to bottom. -/
def blocks (d : Diagnostic) (file : SourceFile) : List String :=
  d.heading :: d.placeLine file :: ((d.shownSnippets file).map Snippet.format ++
    d.notes.map ("  = note: " ++ ·) ++ d.helps.map ("  = help: " ++ ·))

/-- The full form, without a final line feed. -/
def render (d : Diagnostic) (file : SourceFile) : String := "\n".intercalate (d.blocks file)

end Diagnostic

end Lexeme
