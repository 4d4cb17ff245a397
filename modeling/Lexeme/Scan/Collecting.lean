import Lexeme.Scan.Lexer

/-!
# Handlers in use

A handler is shared: callers emit diagnostics to it, finished or put together on the spot, and texts
are scanned leniently with their warnings going there, while others look at what it holds or take it
away.

## Main definitions

* `Handler.Request`, `Handler.Answer`: the operations and what they return.
* `Handler.perform`: one operation.
* `Handler.run`, `Handler.final`: several, in order.
-/

namespace Lexeme

namespace Handler

/-- The operations on a handler. -/
inductive Request where
  | emit (d : Diagnostic)
  /-- Puts a diagnostic together and emits it. -/
  | build (severity : Severity) (message : String) (details : List Diagnostic.Detail)
  /-- Scans a text leniently, with warnings to the handler. -/
  | lex (text : String)
  /-- All that is held. -/
  | diagnostics
  /-- All that is held, taken out of the handler. -/
  | take
deriving DecidableEq, Repr

/-- What the operations return. -/
inductive Answer where
  | none
  | count (tokens : Nat)
  | list (ds : List Diagnostic)
deriving DecidableEq, Repr

/-- One operation. -/
def perform (h : Handler) : Request → Answer × Handler
  | .emit d => (.none, h.emit d)
  | .build severity message details => (.none, h.emit (.build severity message details))
  | .lex text =>
    let (tokens, h) := tokenizeWith h text
    (.count tokens.length, h)
  | .diagnostics => (.list h.diagnostics, h)
  | .take =>
    let (taken, h) := h.take
    (.list taken, h)

/-- The operations in order: each answer with the handler after it. -/
def run (h : Handler) : List Request → List (Answer × Handler)
  | [] => []
  | request :: requests =>
    let step := h.perform request
    step :: run step.2 requests

/-- The handler at the end of a run. -/
def final (h : Handler) (requests : List Request) : Handler :=
  requests.foldl (fun h request => (h.perform request).2) h

end Handler

end Lexeme
