import Lexeme.Diagnostic.Basic

/-!
# Diagnostic handlers

A handler collects diagnostics in the order in which they are emitted, until they are taken.
-/

namespace Lexeme

/-- The diagnostics collected so far, oldest first. -/
structure Handler where
  diagnostics : List Diagnostic := []
deriving DecidableEq, Repr, Inhabited

namespace Handler

/-- A handler that holds nothing. -/
def empty : Handler := ⟨[]⟩

def emit (h : Handler) (d : Diagnostic) : Handler := ⟨h.diagnostics ++ [d]⟩

def emitAll (h : Handler) (ds : List Diagnostic) : Handler := ⟨h.diagnostics ++ ds⟩

/-- Hands out everything collected and starts again with nothing. -/
def take (h : Handler) : List Diagnostic × Handler := (h.diagnostics, empty)

def hasErrors (h : Handler) : Bool := h.diagnostics.any Diagnostic.isError

def warningCount (h : Handler) : Nat := h.diagnostics.countP Diagnostic.isWarning

def count (h : Handler) : Nat := h.diagnostics.length

@[simp]
theorem diagnostics_empty : empty.diagnostics = [] := rfl

@[simp]
theorem diagnostics_emit (h : Handler) (d : Diagnostic) :
    (h.emit d).diagnostics = h.diagnostics ++ [d] := rfl

@[simp]
theorem diagnostics_emitAll (h : Handler) (ds : List Diagnostic) :
    (h.emitAll ds).diagnostics = h.diagnostics ++ ds := rfl

@[simp]
theorem emitAll_nil (h : Handler) : h.emitAll [] = h := by simp [emitAll]

@[simp]
theorem emitAll_emit (h : Handler) (d : Diagnostic) (ds : List Diagnostic) :
    (h.emit d).emitAll ds = h.emitAll (d :: ds) := by
  simp [emitAll]

@[simp]
theorem take_fst (h : Handler) : h.take.1 = h.diagnostics := rfl

@[simp]
theorem diagnostics_take (h : Handler) : h.take.2.diagnostics = [] := rfl

end Handler

end Lexeme
