import Lexeme.Proofs.Agreement
import Lexeme.Scan.Collecting
import Mathlib.Data.List.DropRight

/-!
# What handlers hold

A handler neither loses nor doubles a diagnostic: what was taken from it, followed by what it holds,
is all that was emitted to it, in order. What it holds is what was emitted since it was last
emptied, so its count of warnings and its word on errors are about that.

## Main definitions

* `Handler.Request.emits`: the diagnostics that an operation emits.
* `Handler.Request.takes`, `Handler.allTaken`: those that an operation, and a run, hands out for
  good.
* `Handler.sinceTake`: the operations after the last one that took everything.
* `Handler.Keeps`: what a handler holds after some operations.

## Main statements

* `Handler.perform_conserves`, `Handler.final_conserves`: the balance of one operation and of a run.
* `Handler.diagnostics_final`: a handler holds what was emitted since it was last emptied.
* `Handler.keeps_diagnostics`: all of this for the handler after any run.
-/

namespace Lexeme

namespace Handler

/-- The diagnostics that an operation emits. What is put together has the last of the codes and of
the spans that are given, and all notes, advice and snippets. Scanning a text gives a warning for
each of the problems that a check of the text finds. -/
def Request.emits : Request → List Diagnostic
  | .emit d => [d]
  | .build severity message details =>
    [{ severity
       message
       span := (details.filterMap Diagnostic.Detail.span?).getLast?.getD Span.unplaced
       code := (details.filterMap Diagnostic.Detail.code?).getLast?
       notes := details.filterMap Diagnostic.Detail.note?
       helps := details.filterMap Diagnostic.Detail.help?
       snippets := details.filterMap Diagnostic.Detail.snippet? }]
  | .lex text => (check text).problems.map Problem.toWarning
  | .diagnostics | .take => []

/-- The diagnostics that an operation with this answer hands out for good. -/
def Request.takes : Request → Answer → List Diagnostic
  | .take, .list ds => ds
  | _, _ => []

/-- All that the operations of a run hand out for good. -/
def allTaken (h : Handler) (requests : List Request) : List Diagnostic :=
  (requests.zip (h.run requests)).flatMap fun (request, step) => request.takes step.1

/-- The operations after the last one that took everything. -/
def sinceTake (requests : List Request) : List Request := requests.rtakeWhile (· ≠ .take)

variable {h : Handler} {request : Request}

/-! ## One operation -/

theorem tokenizeWith_snd (h : Handler) (text : String) :
    (tokenizeWith h text).2 = h.emitAll ((check text).problems.map Problem.toWarning) := by
  rw [tokenizeWith_eq, problems_check_eq]

/-- Everything but taking adds what it emits. -/
theorem diagnostics_perform (hrequest : request ≠ .take) :
    (h.perform request).2.diagnostics = h.diagnostics ++ request.emits := by
  cases request with
  | emit d => rfl
  | build severity message details =>
    rw [perform, Diagnostic.build_eq]
    rfl
  | lex text => simp [perform, tokenizeWith_snd, Request.emits]
  | diagnostics => simp [perform, Request.emits]
  | take => exact absurd rfl hrequest

/-- What was held and what is emitted is either handed out or held afterwards. -/
theorem perform_conserves (h : Handler) (request : Request) :
    request.takes (h.perform request).1 ++ (h.perform request).2.diagnostics =
      h.diagnostics ++ request.emits := by
  by_cases hrequest : request = .take
  · subst hrequest
    rfl
  · have htakes : request.takes (h.perform request).1 = [] := by
      cases request with
      | take => exact absurd rfl hrequest
      | _ => rfl
    rw [htakes, List.nil_append, diagnostics_perform hrequest]

/-- The warnings about a text are no errors. -/
theorem hasErrors_lex (h : Handler) (text : String) :
    (h.perform (.lex text)).2.hasErrors = h.hasErrors := by
  simp [perform, tokenizeWith_snd, hasErrors, Problem.toWarning_eq, Diagnostic.isError]

/-- Each diagnostic is a warning or an error. -/
theorem warningCount_add_errors (h : Handler) :
    h.warningCount + h.diagnostics.countP Diagnostic.isError = h.count := by
  have hsplit := h.diagnostics.length_eq_countP_add_countP Diagnostic.isWarning
  have herror : ∀ d ∈ h.diagnostics, d.isError = true ↔ (!d.isWarning) = true := by
    intro d _
    cases hseverity : d.severity <;> simp [Diagnostic.isError, Diagnostic.isWarning, hseverity]
  rw [warningCount, count, List.countP_congr herror, hsplit]
  simp

/-! ## Runs -/

theorem allTaken_cons (h : Handler) (request : Request) (requests : List Request) :
    h.allTaken (request :: requests) =
      request.takes (h.perform request).1 ++ (h.perform request).2.allTaken requests := rfl

/-- What was held and what is emitted is either handed out or held at the end. -/
theorem final_conserves (h : Handler) (requests : List Request) :
    h.allTaken requests ++ (h.final requests).diagnostics =
      h.diagnostics ++ requests.flatMap Request.emits := by
  induction requests generalizing h with
  | nil => simp [allTaken, final]
  | cons request requests ih =>
    rw [allTaken_cons, final, List.foldl_cons, ← final, List.append_assoc, ih, ← List.append_assoc,
      perform_conserves, List.flatMap_cons, List.append_assoc]

/-- A handler holds what was emitted since it was last emptied. -/
theorem diagnostics_final (requests : List Request) :
    (empty.final requests).diagnostics = (sinceTake requests).flatMap Request.emits := by
  -- From the end of the run: the last operation alone tells whether all before it still counts.
  induction requests using List.reverseRecOn with
  | nil => rfl
  | append_singleton requests request ih =>
    rw [final, List.foldl_concat, ← final, sinceTake]
    by_cases hrequest : request = .take
    · subst hrequest
      rw [List.rtakeWhile_concat_neg _ _ _ (by simp)]
      rfl
    · rw [diagnostics_perform hrequest, ih, List.rtakeWhile_concat_pos _ _ _ (by simpa)]
      simp [sinceTake]

/-- After these operations, a handler that was empty at first has handed out `taken` and now is
`h`. -/
structure Keeps (requests : List Request) (taken : List Diagnostic) (h : Handler) : Prop where
  /-- Nothing is lost and nothing is doubled. -/
  conserved : taken ++ h.diagnostics = requests.flatMap Request.emits
  /-- Scanning a text emits one warning for each of its problems, in order. -/
  warned : ∀ text, List.Forall₂ Diagnostic.Warns (Request.lex text).emits (check text).problems
  looking : h.perform .diagnostics = (.list h.diagnostics, h)
  taking : h.perform .take = (.list h.diagnostics, empty)
  counted : h.warningCount + h.diagnostics.countP Diagnostic.isError = h.diagnostics.length
  /-- There are errors if one was emitted since the handler was last emptied. -/
  errors : h.hasErrors = true ↔
    ∃ d ∈ (sinceTake requests).flatMap Request.emits, d.severity = .error
  scanning : ∀ text, (h.perform (.lex text)).2.hasErrors = h.hasErrors

/-- Whatever is done with a handler, it keeps each diagnostic until it is taken. -/
theorem keeps_diagnostics (requests : List Request) :
    Keeps requests (empty.allTaken requests) (empty.final requests) := by
  refine ⟨?conserved, ?warned, rfl, rfl, warningCount_add_errors _, ?errors, hasErrors_lex _⟩
  case conserved => simpa using final_conserves empty requests
  case warned =>
    intro text
    rw [Request.emits, List.forall₂_map_left_iff]
    exact List.forall₂_same.mpr fun p _ => p.warns_toWarning
  case errors =>
    rw [hasErrors, diagnostics_final, List.any_eq_true]
    simp only [Diagnostic.isError, decide_eq_true_eq]

end Handler

end Lexeme
