import Lexeme.Proofs.Stream
import Mathlib.Data.List.Forall2
import Mathlib.Data.List.Nodup

/-!
# Three runs over one text

A text can be read leniently, with warnings to a handler; it can be read strictly, up to the first
problem; and it can be checked for all its problems. The three runs agree: the warnings are about
the problems, one each and in order, the strict run ends with the first of them, and the tokens that
the check counts are those that stand at no problem.

## Main definitions

* `Diagnostic.Warns`: a diagnostic is the warning about a problem.
* `flawed`: the tokens of a stream that have a problem.
* `Agreement`: what the results of the three runs have to do with each other.

## Main statements

* `Stream.map_span_flawed`: problems stand where the flawed tokens stand.
* `Stream.mem_flawed_iff`: a token is flawed in just one place.
* `tokenizeWith_agrees`: the three runs agree on every text.
-/

namespace Lexeme

/-! ## Warnings -/

/-- The diagnostic is a warning that stands where the problem does and has the code for its flaw. -/
structure Diagnostic.Warns (d : Diagnostic) (p : Problem) : Prop where
  severity : d.severity = .warning
  span : d.span = p.span
  code : d.code.map DiagnosticCode.text =
    match p.flaw with
    | .unexpectedCharacter _ => some "W0101"
    | .unterminatedString => some "W0102"
  snippets : d.snippets = []

theorem Problem.warns_toWarning (p : Problem) : p.toWarning.Warns p := by
  refine ⟨rfl, rfl, ?_, rfl⟩
  cases hflaw : p.flaw <;> simp [Problem.toWarning_eq, hflaw, Flaw.warningCode] <;> decide

/-! ## Flawed tokens -/

/-- The tokens that have a problem. -/
def flawed (pulls : List (Token × Option Problem)) : List Token :=
  (pulls.filter fun p => p.2.isSome).map Prod.fst

theorem flawed_sublist (pulls : List (Token × Option Problem)) :
    (flawed pulls).Sublist (pulls.map Prod.fst) :=
  List.filter_sublist.map _

namespace Stream

variable {before text : List Char} {pulls : List (Token × Option Problem)}

/-- Problems stand where the flawed tokens stand. -/
theorem map_span_flawed (h : Stream before text pulls) :
    (flawed pulls).map Token.span = (pulls.filterMap Prod.snd).map Problem.span := by
  have hspan := h.problem_span
  clear h
  induction pulls with
  | nil => rfl
  | cons p pulls ih =>
    obtain ⟨hp, hpulls⟩ := List.forall_mem_cons.mp hspan
    obtain ⟨t, problem⟩ := p
    cases problem with
    | none => simpa [flawed] using ih hpulls
    | some problem => simpa [flawed, hp problem rfl] using ih hpulls

theorem nodup_tokens (h : Stream before text pulls) : (pulls.map Prod.fst).Nodup := by
  refine List.pairwise_map.mpr (h.precedes.imp ?_)
  rintro p p' hprecedes heq
  have hlt := hprecedes.start_lt
  rw [heq] at hlt
  omega

/-- A token is flawed in just one place. -/
theorem mem_flawed_iff (h : Stream before text pulls) {p : Token × Option Problem}
    (hp : p ∈ pulls) : p.1 ∈ flawed pulls ↔ p.2.isSome = true := by
  constructor
  · intro hmem
    obtain ⟨p', hp', heq⟩ := List.mem_map.mp hmem
    obtain ⟨hp', hsome⟩ := List.mem_filter.mp hp'
    rwa [List.inj_on_of_nodup_map h.nodup_tokens hp' hp heq] at hsome
  · intro hsome
    exact List.mem_map_of_mem (List.mem_filter.mpr ⟨hp, hsome⟩)

/-- Without the flawed tokens, as many are left as have no problem. -/
theorem length_filter_not_flawed (h : Stream before text pulls) :
    ((pulls.map Prod.fst).filter fun t => t ∉ flawed pulls).length =
      pulls.countP fun p => p.2.isNone := by
  rw [List.filter_map, List.length_map, ← List.countP_eq_length_filter]
  refine List.countP_congr ?_
  intro p hp
  simp [h.mem_flawed_iff hp]

end Stream

/-! ## The three runs -/

/-- The tokens and the warnings of a lenient run, the report of a check, and the result of a strict
run are those of one text. -/
structure Agreement (tokens : List Token) (warnings : List Diagnostic) (report : CheckReport)
    (strict : Except Problem (List Token)) : Prop where
  /-- There is one warning for each problem, in order. -/
  warned : List.Forall₂ Diagnostic.Warns warnings report.problems
  /-- A token is counted or has its problem reported. -/
  count : report.tokens + report.problems.length = tokens.length
  /-- The problems stand where some of the tokens do, and the check counts the others. -/
  spans : ∃ bad : List Token, bad.Sublist tokens ∧
    bad.map Token.span = report.problems.map Problem.span ∧
    (tokens.filter fun t => t ∉ bad).length = report.tokens
  /-- No two tokens stand at one place, and they come in order. -/
  ordered : tokens.Pairwise fun t t' => t.span.start < t'.span.start
  /-- The strict run ends with the first problem, or else has all tokens. -/
  strict : strict =
    match report.problems with
    | [] => .ok tokens
    | problem :: _ => .error problem

/-- A lenient run with a fresh handler, a check and a strict run agree on every text; and whichever
handler is attached, or none, the tokens are the same. -/
theorem tokenizeWith_agrees (text : String) :
    Agreement (tokenizeWith .empty text).1 (tokenizeWith .empty text).2.diagnostics (check text)
        (tokenizeStrict text) ∧
      ∀ h, (tokenizeWith h text).1 = tokenize text := by
  have h := stream_spec text
  refine ⟨?_, fun h => by rw [tokenizeWith_eq, tokenize_eq]⟩
  rw [tokenizeWith_eq]
  refine ⟨?warned, ?count, ?spans, ?ordered, ?strict⟩
  case warned =>
    simp only [Handler.diagnostics_emitAll, Handler.empty, List.nil_append, problems_check_eq,
      List.forall₂_map_left_iff]
    exact List.forall₂_same.mpr fun p _ => p.warns_toWarning
  case count =>
    have hsplit := List.length_eq_countP_add_countP (l := stream text) fun p => p.2.isSome
    simp only [Bool.not_eq_true, Bool.decide_eq_false, Option.not_isSome] at hsplit
    rw [tokens_check_eq, problems_check_eq, List.length_filterMap_eq_countP, List.length_map,
      hsplit, Nat.add_comm]
  case spans =>
    refine ⟨flawed (stream text), flawed_sublist _, ?_, ?_⟩
    · rw [h.map_span_flawed, problems_check_eq]
    · rw [h.length_filter_not_flawed, tokens_check_eq]
  case ordered => exact List.pairwise_map.mpr (h.precedes.imp Span.Precedes.start_lt)
  case strict =>
    rw [problems_check_eq]
    exact tokenizeStrict_eq text

end Lexeme
