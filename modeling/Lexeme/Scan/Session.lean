import Lexeme.Scan.Lexer

/-!
# Lexer sessions

A session uses one lexer through all of its operations, strict and lenient, while warnings go to
whichever of two handlers is attached at the time. Everything that happens is logged.

## Main definitions

* `Session.Request`, `Session.Answer`: the operations and what they return.
* `Session.perform`: one operation.
* `Session.run`: several, in order.
-/

namespace Lexeme

/-- Which of the two handlers. -/
inductive Slot where
  | first
  | second
deriving DecidableEq, Repr

/-- A lexer, two handlers, the one that is attached, and the log so far. -/
structure Session where
  lexer : Lexer
  first : Handler
  second : Handler
  attached : Option Slot
  events : List Event
deriving DecidableEq, Repr

namespace Session

/-- The operations on a lexer. -/
inductive Request where
  /-- The next token, leniently; the end token again and again at the end. -/
  | nextToken
  /-- The next token, strictly. -/
  | tryNextToken
  /-- The next token, leniently, unless the end token was handed out. -/
  | next
  /-- All that is left, leniently. -/
  | rest
  /-- The whole text. -/
  | source
  /-- Sends warnings to a handler from now on. -/
  | attach (slot : Slot)
deriving DecidableEq, Repr

/-- What the operations return. -/
inductive Answer where
  | token (t : Token)
  | problem (p : Problem)
  | tokens (ts : List Token)
  | text (s : String)
  | none
deriving DecidableEq, Repr

/-- A fresh lexer at the start of `text`, with empty handlers of which none is attached. -/
def start (text : String) : Session := ⟨.ofString text, .empty, .empty, none, []⟩

def handler (s : Session) : Slot → Handler
  | .first => s.first
  | .second => s.second

/-- The session after `warnings` went to the attached handler, if there is one. -/
def deliver (s : Session) (warnings : List Diagnostic) : Session :=
  match s.attached with
  | none => s
  | some .first => { s with first := s.first.emitAll warnings }
  | some .second => { s with second := s.second.emitAll warnings }

/-- The session after the lenient pull `p`. -/
def afterLenient (s : Session) (p : Pull) : Session :=
  { s.deliver p.warning?.toList with
    lexer := p.lexer
    events := s.events ++ p.events }

/-- The session after the strict pull `p`; handlers hear nothing of it. -/
def afterStrict (s : Session) (p : Pull) : Session :=
  { s with
    lexer := p.lexer
    events := s.events ++ p.strictEvents }

/-- One operation. -/
def perform (s : Session) : Request → Answer × Session
  | .nextToken => (.token s.lexer.pull.token, s.afterLenient s.lexer.pull)
  | .tryNextToken =>
    let answer : Answer :=
      match s.lexer.pull.strictResult with
      | .ok t => .token t
      | .error p => .problem p
    (answer, s.afterStrict s.lexer.pull)
  | .next =>
    match s.lexer.next with
    | some p => (.token p.token, s.afterLenient p)
    | none => (.none, s)
  | .rest =>
    let pulls := s.lexer.remaining
    (.tokens (pulls.map Pull.token), pulls.foldl afterLenient s)
  | .source => (.text (String.ofList s.lexer.cursor.source), s)
  | .attach slot => (.none, { s with attached := some slot })

/-- The operations in order: each answer with the session after it. -/
def run (s : Session) : List Request → List (Answer × Session)
  | [] => []
  | request :: requests =>
    let step := s.perform request
    step :: run step.2 requests

/-- The session at the end of a run. -/
def final (s : Session) (requests : List Request) : Session :=
  requests.foldl (fun s request => (s.perform request).2) s

end Session

end Lexeme
