import Lexeme.Command.Input
import Lexeme.Proofs.Coverage
import Lexeme.Proofs.Interleaving
import Mathlib.Data.List.GetD

/-!
# Logs

The log of a lexer accounts for every pull. However strict and lenient pulls are mixed, each one
that scans leaves the trace of its token; the end of the input is announced once, right before the
first trace of the end token, with the number of all tokens; and each strict failure follows the
trace of the token that it discards. A file that is scanned leniently adds a warning for each
problem and a summary.

## Main definitions

* `Record`: what a log shows of an event.
* `Session.modes`: which of the pulls that scan are strict.
* `scannedAt`, `pullRecords`: the outcome of a pull, and what it leaves in the log.
* `LogAccounts`: what a log of pulls shows.

## Main statements

* `Lexer.events_pull_after`: what one pull logs, from the number of pulls before it.
* `Session.events_final`: the log of a run is that of its pulls, in order.
* `logAccounts_of_pulls`: such a log accounts for every pull.
* `logs_account_for_pulls`: the logs of all runs, and of all files that are scanned leniently.
-/

namespace Lexeme

/-! ## Records -/

/-- What a log shows of an event. -/
structure Record where
  level : LogLevel
  message : String
  fields : List (String × FieldValue)
deriving DecidableEq, Repr

namespace Record

/-- The trace of a token. -/
def token (t : Token) : Record where
  level := .trace
  message := "token"
  fields := [("kind", .plain t.kind.name), ("value", .quoted t.value),
    ("line", .number t.span.line), ("column", .number t.span.column)]

/-- The announcement of the end, with the number of all tokens. -/
def endOfInput (tokens : Nat) : Record where
  level := .debug
  message := "reached end of input"
  fields := [("tokens", .number tokens)]

/-- A strict pull met a flaw in the token `t`. -/
def strictFailure (flaw : Flaw) (t : Token) : Record where
  level := .debug
  message := "strict lexing failed"
  fields := [("error", .plain flaw.message), ("line", .number t.span.line),
    ("column", .number t.span.column)]

/-- A rendered warning. -/
def warning (text : String) : Record := ⟨.warn, text, []⟩

/-- The summary of a file that was scanned leniently. -/
def tokenized (file : String) (tokens warnings : Nat) : Record where
  level := .debug
  message := "tokenized"
  fields := [("file", .quoted file), ("tokens", .number tokens), ("warnings", .number warnings)]

end Record

namespace Event

def record (e : Event) : Record := ⟨e.level, e.message, e.fields⟩

@[simp]
theorem record_token (t : Token) : (token t).record = .token t := rfl

@[simp]
theorem record_endOfInput (tokens : Nat) : (endOfInput tokens).record = .endOfInput tokens := rfl

theorem record_strictFailure {p : Problem} {t : Token} (h : p.span = t.span) :
    (strictFailure p).record = .strictFailure p.flaw t := by
  simp [record, level, message, fields, Record.strictFailure, Problem.message, h]

@[simp]
theorem record_warning (text : String) : (warning text).record = .warning text := rfl

@[simp]
theorem record_tokenized (file : String) (tokens warnings : Nat) :
    (tokenized file tokens warnings).record = .tokenized file tokens warnings := rfl

end Event

/-- What a log of level `threshold` shows of some events. -/
def shownAt (threshold : Option LogLevel) (events : List Event) : List Record :=
  (events.filter fun e => LogLevel.admits threshold e.level).map Event.record

/-- A log of the finest level shows every event. -/
theorem shownAt_trace (events : List Event) :
    shownAt (some .trace) events = events.map Event.record := by
  have hall : events.filter (fun e => LogLevel.admits (some .trace) e.level) = events := by
    refine List.filter_eq_self.mpr ?_
    intro e _
    cases e.level <;> rfl
  rw [shownAt, hall]

/-! ## Pulls -/

/-- The outcome of a pull after `count` pulls that scanned; behind the last one, the end token. -/
def scannedAt (text : String) (count : Nat) : Token × Option Problem :=
  (stream text).getD count (.endAt text.toList, none)

/-- What a pull leaves in the log that comes after `count` others and yields `outcome`, for a text
of `size` tokens. -/
def pullRecords (size count : Nat) (strict : Bool) (outcome : Token × Option Problem) :
    List Record :=
  (if count + 1 = size then [.endOfInput size] else []) ++
    .token outcome.1 ::
      if strict then outcome.2.toList.map fun p => .strictFailure p.flaw outcome.1 else []

theorem length_stream (text : String) : (stream text).length = (tokenize text).length := by
  rw [tokenize_eq, List.length_map]

/-- The end token is scanned first when all other tokens have been. -/
theorem kind_scannedAt_eq_eof_iff (text : String) (count : Nat) :
    (scannedAt text count).1.kind = .eof ↔ (tokenize text).length ≤ count + 1 := by
  obtain ⟨body, last, hstream, hbody, hlast⟩ := (stream_spec text).ends
  rw [← length_stream, scannedAt, hstream, List.length_append, List.length_singleton]
  by_cases hcount : count < body.length
  · rw [List.getD_append _ _ _ _ hcount, List.getD_eq_getElem _ _ hcount]
    have hkind := hbody _ (List.getElem_mem hcount)
    simp only [hkind, false_iff]
    omega
  · have hle : body.length ≤ count := Nat.le_of_not_lt hcount
    have hend : ([last].getD (count - body.length) (.endAt text.toList, none)).1 =
        .endAt text.toList := by
      cases count - body.length with
      | zero => exact hlast
      | succ => rfl
    rw [List.getD_append_right _ _ _ _ hle, hend]
    simp only [Token.endAt, true_iff]
    omega

/-- A problem stands where its token does. -/
theorem span_scannedAt {text : String} {count : Nat} {p : Problem}
    (h : (scannedAt text count).2 = some p) : p.span = (scannedAt text count).1.span := by
  by_cases hcount : count < (stream text).length
  · rw [scannedAt, List.getD_eq_getElem _ _ hcount] at h ⊢
    exact (stream_spec text).problem_span _ (List.getElem_mem hcount) p h
  · rw [scannedAt, List.getD_eq_default _ _ (Nat.le_of_not_lt hcount)] at h
    cases h

namespace Lexer

theorem emitted_after (count : Nat) (l : Lexer) : (after count l).emitted = l.emitted + count := by
  induction count generalizing l with
  | zero => rfl
  | succ count ih =>
    rw [after, ih]
    simp only [pull]
    omega

theorem finished_after_ofString_iff (text : String) (count : Nat) :
    (after count (ofString text)).finished = true ↔ (tokenize text).length ≤ count := by
  rw [finished_after_iff, remaining_ofString, ← length_stream, stream, List.length_map]

theorem outcome_pull_after (text : String) (count : Nat) :
    (after count (ofString text)).pull.outcome = scannedAt text count := by
  by_cases hcount : count < (ofString text).remaining.length
  · have hpull := getElem?_remaining hcount
    rw [remaining_ofString] at hpull
    rw [scannedAt, List.getD_eq_getElem?_getD, stream, List.getElem?_map, hpull]
    rfl
  · -- Behind the last pull, the end token comes again and again.
    obtain ⟨p, hlast, hended, -⟩ :=
      exists_ended_after (l := ofString text) rfl (Nat.le_of_not_lt hcount)
    obtain ⟨htoken, hproblem, -, -⟩ := hended.pull
    obtain ⟨body, last, hstream, -, hend⟩ := (stream_spec text).ends
    have houtcome : (stream text).getLast? = some p.outcome := by
      rw [List.getLast?_eq_getElem?, stream, List.length_map, List.getElem?_map,
        ← remaining_ofString, hlast]
      rfl
    rw [hstream, List.getLast?_concat, Option.some.injEq] at houtcome
    have hp : p.token = .endAt text.toList := by
      rw [houtcome] at hend
      exact hend
    have hle : (stream text).length ≤ count := by
      rw [stream, List.length_map, ← remaining_ofString]
      exact Nat.le_of_not_lt hcount
    rw [Pull.outcome, htoken, hproblem, hp, scannedAt, List.getD_eq_default _ _ hle]

/-- What a pull logs, from the number of pulls before it. -/
theorem events_pull_after (text : String) (count : Nat) :
    (after count (ofString text)).pull.events =
      (if count + 1 = (tokenize text).length then [.endOfInput (tokenize text).length] else []) ++
        [.token (scannedAt text count).1] := by
  have htoken : (after count (ofString text)).cursor.scan.token = (scannedAt text count).1 :=
    congrArg Prod.fst (outcome_pull_after text count)
  have hfinished := finished_after_ofString_iff text count
  have heof := kind_scannedAt_eq_eof_iff text count
  have hemitted : (after count (ofString text)).emitted + 1 = count + 1 := by
    rw [emitted_after]
    simp [ofString]
  have hannounced : ((scannedAt text count).1.isEof && !(after count (ofString text)).finished) =
      decide (count + 1 = (tokenize text).length) := by
    rw [Bool.eq_iff_iff]
    simp only [Token.isEof, Bool.and_eq_true, decide_eq_true_eq, Bool.not_eq_true', heof,
      ← Bool.not_eq_true, hfinished]
    omega
  simp only [pull, htoken, hemitted, hannounced, decide_eq_true_eq]
  split
  · rename_i heq
    rw [heq]
  · rfl

end Lexer

/-! ## Sessions -/

/-- The events of the pull that comes after `count` others. -/
def pullEvents (text : String) (strict : Bool) (count : Nat) : List Event :=
  if strict then (Lexer.after count (.ofString text)).pull.strictEvents
  else (Lexer.after count (.ofString text)).pull.events

theorem shownAt_pullEvents (text : String) (strict : Bool) (count : Nat) :
    shownAt (some .trace) (pullEvents text strict count) =
      pullRecords (tokenize text).length count strict (scannedAt text count) := by
  have hproblem : (Lexer.after count (.ofString text)).pull.problem = (scannedAt text count).2 :=
    congrArg Prod.snd (Lexer.outcome_pull_after text count)
  have hannounced : (if count + 1 = (tokenize text).length then
      [Event.endOfInput (tokenize text).length] else []).map Event.record =
      if count + 1 = (tokenize text).length then [.endOfInput (tokenize text).length] else [] := by
    split <;> rfl
  rw [shownAt_trace, pullEvents, pullRecords, Pull.strictEvents, Lexer.events_pull_after, hproblem]
  cases strict with
  | false => simp [hannounced]
  | true =>
    cases hscanned : (scannedAt text count).2 with
    | none => simp [hannounced]
    | some p => simp [hannounced, Event.record_strictFailure (span_scannedAt hscanned)]

namespace Session

/-- For each pull of a request that scans, whether it is strict, if `count` of the `size` pulls up
to the end have been made. -/
def modes (size count : Nat) : Request → List Bool
  | .nextToken => [false]
  | .tryNextToken => [true]
  | .next => if size ≤ count then [] else [false]
  | .rest => List.replicate (size - count) false
  | .source | .attach _ => []

/-- For each pull of some requests that scans, whether it is strict. -/
def runModes (size count : Nat) : List Request → List Bool
  | [] => []
  | request :: requests =>
    let first := modes size count request
    first ++ runModes size (count + first.length) requests

theorem events_foldl_afterLenient (s : Session) (ps : List Pull) :
    (ps.foldl afterLenient s).events = s.events ++ ps.flatMap Pull.events := by
  induction ps generalizing s with
  | nil => simp
  | cons p ps ih =>
    rw [List.foldl_cons, ih, List.flatMap_cons, ← List.append_assoc]
    rfl

/-- All that is left is pulled leniently. -/
theorem flatMap_events_remaining (text : String) (count : Nat) :
    (Lexer.after count (.ofString text)).remaining.flatMap Pull.events =
      ((List.replicate (Lexer.after count (.ofString text)).remaining.length false).zipIdx
        count).flatMap fun pull => pullEvents text pull.1 pull.2 := by
  generalize hrest : (Lexer.after count (.ofString text)).remaining = rest
  induction rest generalizing count with
  | nil => rfl
  | cons p rest ih =>
    obtain ⟨rfl, htail⟩ := Lexer.pull_of_remaining_eq_cons hrest
    rw [← Lexer.after_add_one] at htail
    rw [List.flatMap_cons, ih (count + 1) htail, List.length_cons, List.replicate_succ,
      List.zipIdx_cons, List.flatMap_cons]
    rfl

variable {text : String} {count : Nat} {s : Session}

theorem length_modes (hlexer : s.lexer = Lexer.after count (.ofString text)) (request : Request) :
    s.pulls request = (modes (tokenize text).length count request).length := by
  have hfinished := Lexer.finished_after_ofString_iff text count
  rw [← hlexer] at hfinished
  cases request with
  | nextToken | tryNextToken | source | attach => rfl
  | next =>
    simp only [pulls, modes, hfinished]
    split <;> rfl
  | rest =>
    rw [pulls, modes, List.length_replicate, hlexer, Lexer.remaining_after,
      Lexer.remaining_ofString, List.length_drop, ← length_stream, stream, List.length_map]

/-- A request logs what its pulls log, in order. -/
theorem events_perform (hlexer : s.lexer = Lexer.after count (.ofString text)) (request : Request) :
    (s.perform request).2.events = s.events ++
      ((modes (tokenize text).length count request).zipIdx count).flatMap fun pull =>
        pullEvents text pull.1 pull.2 := by
  have hlength := length_modes hlexer request
  cases request with
  | nextToken => simp [perform, afterLenient, modes, pullEvents, hlexer]
  | tryNextToken => simp [perform, afterStrict, modes, pullEvents, hlexer]
  | next =>
    have hfinished := Lexer.finished_after_ofString_iff text count
    rw [← hlexer] at hfinished
    cases hnow : s.lexer.finished with
    | true => simp [perform, Lexer.next, hnow, modes, hfinished.mp hnow]
    | false =>
      have hlt : ¬ (tokenize text).length ≤ count := by simp [← hfinished, hnow]
      have hperform : (s.perform .next).2 = s.afterLenient s.lexer.pull := by
        simp [perform, Lexer.next, hnow]
      simp [hperform, modes, hlt, afterLenient, pullEvents, hlexer]
  | rest =>
    rw [pulls, modes, List.length_replicate] at hlength
    rw [perform, events_foldl_afterLenient, modes, ← hlength, hlexer, flatMap_events_remaining]
  | source | attach => simp [perform, modes]

theorem lexer_perform_modes (hlexer : s.lexer = Lexer.after count (.ofString text))
    (request : Request) :
    (s.perform request).2.lexer = Lexer.after
      (count + (modes (tokenize text).length count request).length) (.ofString text) := by
  rw [lexer_perform, length_modes hlexer, hlexer, Lexer.after_after]

theorem lexer_final_runModes (hlexer : s.lexer = Lexer.after count (.ofString text))
    (requests : List Request) :
    (s.final requests).lexer = Lexer.after
      (count + (runModes (tokenize text).length count requests).length) (.ofString text) := by
  induction requests generalizing s count with
  | nil => exact hlexer
  | cons request requests ih =>
    rw [final, List.foldl_cons, ← final, ih (lexer_perform_modes hlexer request), runModes,
      List.length_append, Nat.add_assoc]

/-- A run logs what its pulls log, in order. -/
theorem events_final (hlexer : s.lexer = Lexer.after count (.ofString text))
    (requests : List Request) :
    (s.final requests).events = s.events ++
      ((runModes (tokenize text).length count requests).zipIdx count).flatMap fun pull =>
        pullEvents text pull.1 pull.2 := by
  induction requests generalizing s count with
  | nil => simp [final, runModes]
  | cons request requests ih =>
    rw [final, List.foldl_cons, ← final, ih (lexer_perform_modes hlexer request),
      events_perform hlexer, runModes, List.zipIdx_append, List.flatMap_append, List.append_assoc]

end Session

/-! ## Accounts -/

/-- The log shows the pulls of a text that have scanned, where `modes` says which are strict. -/
structure LogAccounts (text : String) (modes : List Bool) (log : List Record) : Prop where
  /-- Pull by pull: the end of the input is announced right before its token is traced for the first
  time, and a strict failure comes right behind the trace of its token. -/
  pulls : log = modes.zipIdx.flatMap fun (strict, k) =>
    pullRecords (tokenize text).length k strict (scannedAt text k)
  /-- Each pull traces its token. -/
  traces : (log.filter fun r => r.message = "token") =
    (List.range modes.length).map fun k => .token (scannedAt text k).1
  /-- The end is announced once if it is reached, and not at all if not. -/
  announcements : (log.filter fun r => r.message = "reached end of input") =
    if (tokenize text).length ≤ modes.length then [.endOfInput (tokenize text).length] else []
  /-- Each strict pull that meets a problem fails once, where its token stands. -/
  failures : (log.filter fun r => r.message = "strict lexing failed") =
    modes.zipIdx.flatMap fun (strict, k) =>
      if strict then
        (scannedAt text k).2.toList.map fun p => .strictFailure p.flaw (scannedAt text k).1
      else []

section Filters

variable (size count : Nat) (strict : Bool) (outcome : Token × Option Problem)

theorem filter_traces_pullRecords :
    ((pullRecords size count strict outcome).filter fun r => r.message = "token") =
      [.token outcome.1] := by
  unfold pullRecords
  cases strict <;> cases outcome.2 <;> split <;>
    simp [Record.token, Record.endOfInput, Record.strictFailure]

theorem filter_announcements_pullRecords :
    ((pullRecords size count strict outcome).filter fun r => r.message = "reached end of input") =
      if count + 1 = size then [.endOfInput size] else [] := by
  unfold pullRecords
  cases strict <;> cases outcome.2 <;> split <;>
    simp [Record.token, Record.endOfInput, Record.strictFailure]

theorem filter_failures_pullRecords :
    ((pullRecords size count strict outcome).filter fun r => r.message = "strict lexing failed") =
      if strict then outcome.2.toList.map fun p => .strictFailure p.flaw outcome.1 else [] := by
  unfold pullRecords
  cases strict <;> cases outcome.2 <;> split <;>
    simp [Record.token, Record.endOfInput, Record.strictFailure]

end Filters

/-- What one place of a list brings about comes once the list is that long. -/
theorem flatMap_range_ite {α : Type} {size : Nat} (hsize : 0 < size) (a : α) (count : Nat) :
    ((List.range count).flatMap fun k => if k + 1 = size then [a] else []) =
      if size ≤ count then [a] else [] := by
  induction count with
  | zero =>
    rw [if_neg (by omega)]
    rfl
  | succ count ih =>
    rw [List.range_succ, List.flatMap_append, ih, List.flatMap_singleton]
    rcases Nat.lt_trichotomy (count + 1) size with hlt | heq | hgt
    · rw [if_neg (by omega), if_neg (by omega), if_neg (by omega), List.append_nil]
    · rw [if_neg (by omega), if_pos heq, if_pos (by omega), List.nil_append]
    · rw [if_pos (by omega), if_neg (by omega), if_pos (by omega), List.append_nil]

/-- A log that has the parts of all pulls accounts for them. -/
theorem logAccounts_of_pulls {text : String} {modes : List Bool} {log : List Record}
    (h : log = modes.zipIdx.flatMap fun (strict, k) =>
      pullRecords (tokenize text).length k strict (scannedAt text k)) :
    LogAccounts text modes log := by
  have hindices : modes.zipIdx.map Prod.snd = List.range modes.length := by
    rw [List.zipIdx_map_snd, List.range_eq_range']
  have hpos : 0 < (tokenize text).length := by
    rw [← length_stream, stream, List.length_map]
    exact List.length_pos_iff.mpr (Lexer.drain_ne_nil _)
  refine ⟨h, ?traces, ?announcements, ?failures⟩
  case traces =>
    simp only [h, List.filter_flatMap, filter_traces_pullRecords]
    rw [← hindices, List.map_map, ← List.map_eq_flatMap]
    rfl
  case announcements =>
    simp only [h, List.filter_flatMap, filter_announcements_pullRecords]
    rw [← flatMap_range_ite hpos, ← hindices, List.flatMap_map]
  case failures => simp only [h, List.filter_flatMap, filter_failures_pullRecords]

/-! ## Files -/

@[simp]
theorem Transcript.events_ofEvents (es : List Event) : events (ofEvents es) = es := by
  simp [events, ofEvents, List.filterMap_map, Function.comp_def, Writing.event?]

/-- With the warnings about problems alone, all that is held is warnings. -/
theorem Handler.warningCount_toWarning (problems : List Problem) :
    (Handler.empty.emitAll (problems.map Problem.toWarning)).warningCount = problems.length := by
  simp [warningCount, empty, List.countP_map, Function.comp_def, Problem.toWarning_eq,
    Diagnostic.isWarning]

theorem scanLeniently_events (file : SourceFile) :
    (scanFile false file).transcript.events =
      ((Session.start file.content).final [.attach .first, .rest]).events ++
        (check file.content).problems.map (fun p => .warning (p.toWarning.render file)) ++
        [.tokenized file.name (tokenize file.content).length
          (check file.content).problems.length] := by
  have hsession : ((Session.start file.content).final [.attach .first, .rest]).events =
      (Lexer.ofString file.content).drain.flatMap Pull.events :=
    Session.events_foldl_afterLenient _ _
  rw [hsession, problems_check_eq, tokenize_eq]
  simp [scanFile, scanLeniently, tokenizeWith_eq, Handler.warningCount_toWarning,
    Function.comp_def]

/-- Logs of the finest level account for all pulls. Whatever is requested of a lexer, each pull that
scans leaves its part of the log and moves the lexer on, and the end of the input is announced as
soon as the lexer has finished; the pulls yield what is scanned at their place, and the last of the
tokens is the first end token. A file that is scanned leniently logs, behind its pulls, one warning
for each problem that a check finds, in order, and then how many tokens and warnings there were. -/
theorem logs_account_for_pulls :
    (∀ (text : String) (requests : List Session.Request),
      let modes := Session.runModes (tokenize text).length 0 requests
      let final := (Session.start text).final requests
      LogAccounts text modes (shownAt (some .trace) final.events) ∧
        final.lexer = .after modes.length (.ofString text) ∧
        (final.lexer.finished = true ↔ (tokenize text).length ≤ modes.length) ∧
        ∀ k, (Lexer.after k (.ofString text)).pull.outcome = scannedAt text k ∧
          ((scannedAt text k).1.kind = .eof ↔ (tokenize text).length ≤ k + 1)) ∧
      ∀ file : SourceFile,
        (scanFile false file).result = .ok (tokenize file.content) ∧
        shownAt (some .trace) (scanFile false file).transcript.events =
          shownAt (some .trace)
              ((Session.start file.content).final [.attach .first, .rest]).events ++
            (check file.content).problems.map (fun p => .warning (p.toWarning.render file)) ++
            [.tokenized file.name (tokenize file.content).length
              (check file.content).problems.length] := by
  refine ⟨?sessions, ?files⟩
  case sessions =>
    intro text requests
    have hlexer : (Session.start text).lexer = Lexer.after 0 (.ofString text) := rfl
    have hfinal := Session.lexer_final_runModes hlexer requests
    rw [Nat.zero_add] at hfinal
    refine ⟨logAccounts_of_pulls ?_, hfinal, ?_, ?_⟩
    · rw [Session.events_final hlexer, Session.start, List.nil_append, shownAt_trace,
        List.map_flatMap]
      simp only [← shownAt_trace, shownAt_pullEvents]
    · rw [hfinal, Lexer.finished_after_ofString_iff]
    · intro k
      exact ⟨Lexer.outcome_pull_after text k, kind_scannedAt_eq_eof_iff text k⟩
  case files =>
    intro file
    refine ⟨?_, ?_⟩
    · simp [scanFile, scanLeniently, tokenizeWith_eq, tokenize_eq]
    · rw [scanLeniently_events]
      simp [shownAt_trace, Function.comp_def]

end Lexeme
