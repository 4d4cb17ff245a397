import Lexeme.Proofs.Stream
import Lexeme.Scan.Session

/-!
# Interleaved pulls

However the operations of a lexer are mixed, they draw from one and the same stream. All that counts
is how many of them scanned: this number tells what the next one returns, where the lexer stands,
whether it has finished, and which warnings it sends to the handler that is attached at the time.

## Main definitions

* `Lexer.after`: a lexer after a number of pulls.
* `Session.pullCount`: how many pulls of a run scanned.
* `Session.Follows`: all that a session shows is determined by the stream and that number.

## Main statements

* `Cursor.scan_scan_of_eof`: at the end, scanning changes nothing any more.
* `Lexer.remaining_after`, `Lexer.pull_after`: what is left, and what comes next, after some pulls.
* `Session.lexer_final`: a run moves the lexer by as many pulls as it scanned.
* `Session.follows_stream`: every run follows the stream.
-/

namespace Lexeme

/-! ## At the end -/

/-- Once the end token was scanned, scanning yields it again and moves no further. -/
theorem Cursor.scan_scan_of_eof {c : Cursor} (h : c.scan.token.kind = .eof) :
    c.scan.problem = none ∧ c.scan.cursor.scan = c.scan := by
  have hafter := after_skipBlanks_of_eof h
  have hscan := scan_eq_scanEnd hafter
  have hskip : c.skipBlanks.skipBlanks = c.skipBlanks := by
    simp [skipBlanks.eq_1 c.skipBlanks, advanceWhile, hafter, advanceN]
  refine ⟨by rw [hscan]; rfl, ?_⟩
  have hcursor : c.scan.cursor = c.skipBlanks := by rw [hscan]; rfl
  rw [hcursor, scan, hskip, scanHere, hafter, hscan]

namespace Lexer

/-- The lexer after `count` pulls. -/
def after : Nat → Lexer → Lexer
  | 0, l => l
  | count + 1, l => after count l.pull.lexer

theorem after_after (l : Lexer) (a b : Nat) : after b (after a l) = after (a + b) l := by
  induction a generalizing l with
  | zero => simp [after]
  | succ a ih => rw [Nat.succ_add, after, after, ih]

theorem after_add_one (l : Lexer) (count : Nat) :
    after (count + 1) l = (after count l).pull.lexer := by
  rw [← after_after l count 1]
  rfl

/-- The lexer has handed out its end token `t`, and pulling yields nothing else. -/
structure Ended (t : Token) (l : Lexer) : Prop where
  finished : l.finished = true
  scan : l.cursor.scan = ⟨t, none, l.cursor⟩

theorem ended_pull_of_eof {l : Lexer} (h : l.pull.token.kind = .eof) :
    Ended l.pull.token l.pull.lexer := by
  obtain ⟨hproblem, hagain⟩ := Cursor.scan_scan_of_eof h
  refine ⟨?_, ?_⟩
  · simpa [pull, Token.isEof] using Or.inr h
  · simp only [pull]
    rw [hagain, ← hproblem]

theorem Ended.pull {t : Token} {l : Lexer} (h : Ended t l) :
    l.pull.token = t ∧ l.pull.problem = none ∧ l.pull.lexer.cursor = l.cursor ∧
      Ended t l.pull.lexer := by
  have hcursor : l.pull.lexer.cursor = l.cursor := by simp [Lexer.pull, h.scan]
  refine ⟨by simp [Lexer.pull, h.scan], by simp [Lexer.pull, h.scan], hcursor, ?_, ?_⟩
  · simp [Lexer.pull, h.finished]
  · rw [hcursor, h.scan]

theorem Ended.after {t : Token} {l : Lexer} (h : Ended t l) (count : Nat) :
    Ended t (Lexer.after count l) ∧ (Lexer.after count l).cursor = l.cursor := by
  induction count generalizing l with
  | zero => exact ⟨h, rfl⟩
  | succ count ih =>
    obtain ⟨-, -, hcursor, hended⟩ := h.pull
    obtain ⟨hended, hcursor'⟩ := ih hended
    exact ⟨hended, hcursor'.trans hcursor⟩

/-! ## After some pulls -/

theorem remaining_ofString (text : String) :
    (ofString text).remaining = (ofString text).drain := rfl

theorem remaining_eq_nil_iff (l : Lexer) : l.remaining = [] ↔ l.finished = true := by
  unfold remaining
  split <;> grind [drain_ne_nil]

/-- What is left starts with the next pull. -/
theorem pull_of_remaining_eq_cons {l : Lexer} {p : Pull} {rest : List Pull}
    (h : l.remaining = p :: rest) : l.pull = p ∧ l.pull.lexer.remaining = rest := by
  have hfinished : l.finished = false := by
    rw [Bool.eq_false_iff, Ne, ← remaining_eq_nil_iff, h]
    simp
  rw [remaining_eq_cons hfinished] at h
  exact List.cons.inj h

/-- What is left after some pulls is what was left before, without as many of its first. -/
theorem remaining_after (l : Lexer) (count : Nat) :
    (after count l).remaining = l.remaining.drop count := by
  induction count generalizing l with
  | zero => rfl
  | succ count ih =>
    rw [after, ih]
    cases hfinished : l.finished with
    | true =>
      have hpull : l.pull.lexer.finished = true := by simp [Lexer.pull, hfinished]
      rw [(remaining_eq_nil_iff _).mpr hpull, (remaining_eq_nil_iff _).mpr hfinished]
      simp
    | false => rw [remaining_eq_cons hfinished, List.drop_succ_cons]

theorem finished_after_iff (l : Lexer) (count : Nat) :
    (after count l).finished = true ↔ l.remaining.length ≤ count := by
  rw [← remaining_eq_nil_iff, remaining_after, List.drop_eq_nil_iff]

theorem finished_after_eq_false_iff (l : Lexer) (count : Nat) :
    (after count l).finished = false ↔ count < l.remaining.length := by
  rw [Bool.eq_false_iff, Ne, finished_after_iff, Nat.not_le]

/-- As long as something is left, the next pull is the first of it. -/
theorem getElem?_remaining {l : Lexer} {count : Nat} (h : count < l.remaining.length) :
    l.remaining[count]? = some (after count l).pull := by
  have hcons := remaining_eq_cons ((finished_after_eq_false_iff l count).mpr h)
  rw [remaining_after] at hcons
  have hhead := congrArg List.head? hcons
  rwa [List.head?_drop] at hhead

/-- When nothing is left, the lexer stands where it stood after its last pull, and yields the token
of that pull. -/
theorem exists_ended_after {l : Lexer} (h : l.finished = false) {count : Nat}
    (hcount : l.remaining.length ≤ count) :
    ∃ p, l.remaining[l.remaining.length - 1]? = some p ∧ Ended p.token (after count l) ∧
      (after count l).cursor = (after l.remaining.length l).cursor := by
  have hpos : 0 < l.remaining.length := by
    rw [remaining_eq_cons h]
    simp
  obtain ⟨last, hlast⟩ : ∃ last, l.remaining.length = last + 1 := Nat.exists_eq_add_one.mpr hpos
  have hafter := after_add_one l last
  -- The last pull finishes the lexer, so it has handed out the end token.
  have heof : (after last l).pull.token.kind = .eof := by
    have hbefore : (after last l).finished = false :=
      (finished_after_eq_false_iff l last).mpr (by omega)
    have hfinished : (after (last + 1) l).finished = true :=
      (finished_after_iff l (last + 1)).mpr (by omega)
    rw [hafter] at hfinished
    simpa [Lexer.pull, Token.isEof, hbefore] using hfinished
  have hended := ended_pull_of_eof heof
  rw [← hafter] at hended
  obtain ⟨hended', hcursor⟩ := hended.after (count - (last + 1))
  rw [after_after, Nat.add_sub_cancel' (by omega)] at hended' hcursor
  refine ⟨(after last l).pull, ?_, hended', ?_⟩
  · rw [hlast, Nat.add_sub_cancel]
    exact getElem?_remaining (by omega)
  · rw [hcursor, hlast]

/-- The next pull after `count` pulls has the token and the problem that stand at this place of what
was left, or the last token and no problem if nothing stands there. -/
theorem pull_after {l : Lexer} (h : l.finished = false) (count : Nat) :
    l.remaining[min count (l.remaining.length - 1)]?.map Pull.token =
        some (after count l).pull.token ∧
      (after count l).pull.problem = l.remaining[count]?.bind Pull.problem := by
  by_cases hcount : count < l.remaining.length
  · have hmin : min count (l.remaining.length - 1) = count := by omega
    rw [hmin, getElem?_remaining hcount]
    exact ⟨rfl, rfl⟩
  · have hmin : min count (l.remaining.length - 1) = l.remaining.length - 1 := by omega
    obtain ⟨p, hp, hended, -⟩ := exists_ended_after h (Nat.le_of_not_lt hcount)
    obtain ⟨htoken, hproblem, -, -⟩ := hended.pull
    rw [hmin, hp, htoken, hproblem, List.getElem?_eq_none (Nat.le_of_not_lt hcount)]
    exact ⟨rfl, rfl⟩

/-- Where a lexer stands depends only on how many pulls it made up to its end. -/
theorem cursor_after {l : Lexer} (h : l.finished = false) (count : Nat) :
    (after count l).cursor = (after (min count l.remaining.length) l).cursor := by
  by_cases hcount : count < l.remaining.length
  · rw [Nat.min_eq_left (Nat.le_of_lt hcount)]
  · obtain ⟨-, -, -, hcursor⟩ := exists_ended_after h (Nat.le_of_not_lt hcount)
    rw [Nat.min_eq_right (Nat.le_of_not_lt hcount), hcursor]

end Lexer

/-! ## The source -/

theorem Cursor.source_scan (c : Cursor) : c.scan.cursor.source = c.source := by
  have hskip : c.skipBlanks.source = c.source := source_advanceN _ _
  unfold scan scanHere
  split
  · exact hskip
  · rw [scanPiece, source_advanceN, hskip]

theorem Lexer.source_after (count : Nat) (l : Lexer) :
    (after count l).cursor.source = l.cursor.source := by
  induction count generalizing l with
  | zero => rfl
  | succ count ih =>
    rw [after, ih]
    exact l.cursor.source_scan

/-! ## Sessions -/

namespace Session

/-- How many pulls a request makes that scan. -/
def pulls (s : Session) : Request → Nat
  | .nextToken | .tryNextToken => 1
  | .next => if s.lexer.finished then 0 else 1
  | .rest => s.lexer.remaining.length
  | .source | .attach _ => 0

/-- How many pulls of a run scan. -/
def pullCount (s : Session) : List Request → Nat
  | [] => 0
  | request :: requests => s.pulls request + (s.perform request).2.pullCount requests

/-- The handler that is attached after a request, if `slot` was before. -/
def attachedAfter (slot : Option Slot) : Request → Option Slot
  | .attach slot => some slot
  | _ => slot

/-- The token of the next pull after `count` pulls of the stream; at its end, the last one again. -/
def nextAnswer (stream : List Pull) (count : Nat) : Answer :=
  match stream[min count (stream.length - 1)]? with
  | some p => .token p.token
  | none => .none

/-- The problem of the next pull after `count` pulls of the stream; at its end there is none. -/
def nextProblem (stream : List Pull) (count : Nat) : Option Problem :=
  stream[count]?.bind Pull.problem

/-- What a request returns after `count` pulls of the stream. -/
def expected (text : String) (stream : List Pull) (count : Nat) : Request → Answer
  | .nextToken => nextAnswer stream count
  | .tryNextToken =>
    match nextProblem stream count with
    | some p => .problem p
    | none => nextAnswer stream count
  | .next => if stream.length ≤ count then .none else nextAnswer stream count
  | .rest => .tokens ((stream.drop count).map Pull.token)
  | .source => .text text
  | .attach _ => .none

/-- The problems that the attached handler is warned of. -/
def warned (stream : List Pull) (count : Nat) : Request → List Problem
  | .nextToken | .next => (nextProblem stream count).toList
  | .rest => (stream.drop count).filterMap Pull.problem
  | .tryNextToken | .source | .attach _ => []

/-- All that the session shows is determined by the stream, by how many pulls have scanned, and by
the handler that is attached. -/
structure Follows (text : String) (stream : List Pull) (count : Nat) (slot : Option Slot)
    (s : Session) : Prop where
  cursor : s.lexer.cursor = ((Lexer.ofString text).after (min count stream.length)).cursor
  finished : s.lexer.finished = true ↔ stream.length ≤ count
  attached : s.attached = slot
  answer : ∀ request, (s.perform request).1 = expected text stream count request
  warnings : ∀ request slot', ((s.perform request).2.handler slot').diagnostics =
    (s.handler slot').diagnostics ++
      if slot = some slot' then (warned stream count request).map Problem.toWarning else []

@[simp]
theorem lexer_afterLenient (s : Session) (p : Pull) : (s.afterLenient p).lexer = p.lexer := rfl

@[simp]
theorem attached_afterLenient (s : Session) (p : Pull) :
    (s.afterLenient p).attached = s.attached := by
  unfold afterLenient deliver
  split <;> grind

/-- Draining moves the lexer by all pulls that are left. -/
theorem lexer_foldl_afterLenient (s : Session) :
    (s.lexer.remaining.foldl afterLenient s).lexer = s.lexer.after s.lexer.remaining.length := by
  generalize hrest : s.lexer.remaining = rest
  induction rest generalizing s with
  | nil => rfl
  | cons p rest ih =>
    obtain ⟨rfl, htail⟩ := Lexer.pull_of_remaining_eq_cons hrest
    exact ih (s.afterLenient s.lexer.pull) htail

/-- A request moves the lexer by as many pulls as it scans. -/
theorem lexer_perform (s : Session) (request : Request) :
    (s.perform request).2.lexer = s.lexer.after (s.pulls request) := by
  cases request with
  | nextToken | tryNextToken | source | attach => rfl
  | next =>
    cases hfinished : s.lexer.finished <;>
      simp [perform, Lexer.next, pulls, hfinished, Lexer.after]
  | rest => exact s.lexer_foldl_afterLenient

/-- A run moves the lexer by as many pulls as it scans. -/
theorem lexer_final (s : Session) (requests : List Request) :
    (s.final requests).lexer = s.lexer.after (s.pullCount requests) := by
  induction requests generalizing s with
  | nil => rfl
  | cons request requests ih =>
    rw [final, List.foldl_cons, ← final, ih, lexer_perform, Lexer.after_after, pullCount]

theorem attached_foldl_afterLenient (s : Session) (ps : List Pull) :
    (ps.foldl afterLenient s).attached = s.attached := by
  induction ps generalizing s with
  | nil => rfl
  | cons p ps ih => rw [List.foldl_cons, ih, attached_afterLenient]

theorem attached_perform (s : Session) (request : Request) :
    (s.perform request).2.attached = attachedAfter s.attached request := by
  cases request with
  | nextToken => exact s.attached_afterLenient _
  | tryNextToken | source | attach => rfl
  | next =>
    cases hfinished : s.lexer.finished <;>
      simp [perform, Lexer.next, hfinished, attachedAfter]
  | rest => exact s.attached_foldl_afterLenient _

theorem attached_final (s : Session) (requests : List Request) :
    (s.final requests).attached = requests.foldl attachedAfter s.attached := by
  induction requests generalizing s with
  | nil => rfl
  | cons request requests ih =>
    rw [final, List.foldl_cons, ← final, ih, attached_perform, List.foldl_cons]

/-- A lenient pull sends its warning to the attached handler, and nothing to the other one. -/
theorem diagnostics_afterLenient (s : Session) (p : Pull) (slot : Slot) :
    ((s.afterLenient p).handler slot).diagnostics = (s.handler slot).diagnostics ++
      if s.attached = some slot then p.problem.toList.map Problem.toWarning else [] := by
  have hwarning : p.warning?.toList = p.problem.toList.map Problem.toWarning := by
    unfold Pull.warning?
    cases p.problem <;> rfl
  unfold afterLenient deliver
  rw [hwarning]
  cases hattached : s.attached with
  | none => cases slot <;> simp [handler]
  | some attached => cases attached <;> cases slot <;> simp [handler]

/-- Lenient pulls in a row send all their warnings, in order. -/
theorem diagnostics_foldl_afterLenient (s : Session) (ps : List Pull) (slot : Slot) :
    ((ps.foldl afterLenient s).handler slot).diagnostics = (s.handler slot).diagnostics ++
      if s.attached = some slot then (ps.filterMap Pull.problem).map Problem.toWarning else [] := by
  induction ps generalizing s with
  | nil => simp
  | cons p ps ih =>
    rw [List.foldl_cons, ih, attached_afterLenient, diagnostics_afterLenient]
    split
    · cases hproblem : p.problem <;> simp [hproblem]
    · simp

/-- A session whose lexer has made `count` pulls follows the stream. -/
theorem follows_of_lexer {text : String} {count : Nat} {s : Session}
    (hlexer : s.lexer = (Lexer.ofString text).after count) :
    Follows text (Lexer.ofString text).drain count s.attached s := by
  have hleft : s.lexer.remaining = (Lexer.ofString text).drain.drop count := by
    rw [hlexer, Lexer.remaining_after, Lexer.remaining_ofString]
  have hfinished := (Lexer.ofString text).finished_after_iff count
  obtain ⟨htoken, hproblem⟩ := @Lexer.pull_after (Lexer.ofString text) rfl count
  rw [← hlexer, Lexer.remaining_ofString] at htoken hproblem hfinished
  have hnext : nextAnswer (Lexer.ofString text).drain count = .token s.lexer.pull.token := by
    obtain ⟨p, hp, hpull⟩ := Option.map_eq_some_iff.mp htoken
    simp only [nextAnswer, hp, hpull]
  refine ⟨?cursor, hfinished, rfl, ?answer, ?warnings⟩
  case cursor =>
    rw [hlexer, ← Lexer.remaining_ofString]
    exact Lexer.cursor_after rfl count
  case answer =>
    intro request
    cases request with
    | nextToken => exact hnext.symm
    | tryNextToken =>
      simp only [perform, expected, nextProblem, ← hproblem, hnext, Pull.strictResult]
      cases s.lexer.pull.problem <;> rfl
    | next =>
      simp only [perform, expected, Lexer.next, ← hfinished, hnext]
      split <;> grind
    | rest => simp only [perform, expected, hleft]
    | source =>
      have hsource : s.lexer.cursor.source = text.toList := by
        rw [hlexer, Lexer.source_after]
        rfl
      simp [perform, expected, hsource]
    | attach => rfl
  case warnings =>
    intro request slot
    cases request with
    | nextToken =>
      rw [perform, diagnostics_afterLenient, hproblem]
      rfl
    | tryNextToken | source | attach => cases slot <;> simp [perform, afterStrict, handler, warned]
    | next =>
      cases hnow : s.lexer.finished with
      | true =>
        have hnone := List.getElem?_eq_none (hfinished.mp hnow)
        simp [perform, Lexer.next, hnow, warned, nextProblem, hnone]
      | false =>
        have hperform : (s.perform .next).2 = s.afterLenient s.lexer.pull := by
          simp [perform, Lexer.next, hnow]
        rw [hperform, diagnostics_afterLenient, hproblem]
        rfl
    | rest =>
      simp only [perform]
      rw [diagnostics_foldl_afterLenient, hleft]
      rfl

/-- Every run follows the stream. The stream is what a fresh lexer yields pull by pull, up to the
end token; whatever was requested before, the next request returns what the stream has after as many
pulls as have scanned, and warns the attached handler of just the problems it meets leniently. The
warnings carry the place of the problem and its code. -/
theorem follows_stream (text : String) (requests : List Request) :
    Follows text (Lexer.ofString text).drain ((start text).pullCount requests)
        (requests.foldl attachedAfter none) ((start text).final requests) ∧
      (∀ k < (Lexer.ofString text).drain.length,
        (Lexer.ofString text).drain[k]? = some ((Lexer.ofString text).after k).pull) ∧
      (∃ body last, (Lexer.ofString text).drain = body ++ [last] ∧
        (∀ p ∈ body, p.token.kind ≠ .eof) ∧ last.token.kind = .eof) ∧
      ∀ p : Problem, p.toWarning.severity = .warning ∧ p.toWarning.span = p.span ∧
        p.toWarning.code.map DiagnosticCode.text =
          match p.flaw with
          | .unexpectedCharacter _ => some "W0101"
          | .unterminatedString => some "W0102" := by
  refine ⟨?_, ?_, (Lexer.ofString text).drain_ends, ?_⟩
  · have hfollows := follows_of_lexer ((start text).lexer_final requests)
    rwa [attached_final] at hfollows
  · intro k hk
    rw [← Lexer.remaining_ofString] at hk ⊢
    exact Lexer.getElem?_remaining hk
  · intro p
    refine ⟨rfl, rfl, ?_⟩
    cases hflaw : p.flaw <;> simp [Problem.toWarning_eq, hflaw, Flaw.warningCode] <;> decide

end Session

end Lexeme
