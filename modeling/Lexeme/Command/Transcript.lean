import Lexeme.Command.Failure
import Lexeme.Log.Event

/-!
# Transcripts

All that a command writes and logs, in order. The standard output, the error output and the log are
views of the same transcript.

## Main definitions

* `Transcript`: the writings of a command.
* `Transcript.out`, `Transcript.err`, `Transcript.events`: the three views.
* `Transcript.errWithLog`: the error output with the lines of the log in between.
* `Report`: a transcript with the result of the command.
-/

namespace Lexeme

/-- One thing written or logged. -/
inductive Writing where
  | out (text : String)
  | err (text : String)
  | log (e : Event)
deriving DecidableEq, Repr

namespace Writing

def out? : Writing → Option String
  | out text => some text
  | _ => none

def err? : Writing → Option String
  | err text => some text
  | _ => none

def event? : Writing → Option Event
  | log e => some e
  | _ => none

/-- What the error output shows if the log has level `threshold` and goes there too. -/
def errOrLog? (threshold : Option LogLevel) : Writing → Option String
  | out _ => none
  | err text => some text
  | log e => if LogLevel.admits threshold e.level then some e.line else none

end Writing

/-- What a command writes and logs, in order. -/
abbrev Transcript := List Writing

namespace Transcript

def out (t : Transcript) : String := String.join (t.filterMap Writing.out?)

def err (t : Transcript) : String := String.join (t.filterMap Writing.err?)

def events (t : Transcript) : List Event := t.filterMap Writing.event?

def errWithLog (threshold : Option LogLevel) (t : Transcript) : String :=
  String.join (t.filterMap (Writing.errOrLog? threshold))

/-- Events and nothing else. -/
def ofEvents (events : List Event) : Transcript := events.map .log

@[simp]
theorem out_nil : out [] = "" := rfl

@[simp]
theorem out_cons (w : Writing) (t : Transcript) : out (w :: t) = w.out?.getD "" ++ out t := by
  cases h : w.out? <;> simp [out, h]

@[simp]
theorem out_append (s t : Transcript) : out (s ++ t) = out s ++ out t := by simp [out]

@[simp]
theorem out_ofEvents (events : List Event) : out (ofEvents events) = "" := by
  induction events with
  | nil => rfl
  | cons e events ih => simpa [ofEvents, Writing.out?] using ih

@[simp]
theorem err_nil : err [] = "" := rfl

@[simp]
theorem err_cons (w : Writing) (t : Transcript) : err (w :: t) = w.err?.getD "" ++ err t := by
  cases h : w.err? <;> simp [err, h]

@[simp]
theorem err_append (s t : Transcript) : err (s ++ t) = err s ++ err t := by simp [err]

@[simp]
theorem err_ofEvents (events : List Event) : err (ofEvents events) = "" := by
  induction events with
  | nil => rfl
  | cons e events ih => simpa [ofEvents, Writing.err?] using ih

end Transcript

/-- What was written on the way to a value or to a failure. -/
structure Report (α : Type) where
  transcript : Transcript
  result : Except Failure α

namespace Report

/-- A value, with nothing written. -/
protected def pure (a : α) : Report α := ⟨[], .ok a⟩

/-- A failure, with nothing written. -/
def fail (f : Failure) : Report α := ⟨[], .error f⟩

def write (t : Transcript) : Report Unit := ⟨t, .ok ()⟩

/-- Goes on after a value; a failure ends the report. -/
protected def bind (r : Report α) (next : α → Report β) : Report β :=
  match r.result with
  | .error f => ⟨r.transcript, .error f⟩
  | .ok a =>
    let s := next a
    ⟨r.transcript ++ s.transcript, s.result⟩

instance : Monad Report where
  pure := Report.pure
  bind := Report.bind

theorem bind_of_ok {r : Report α} {a : α} (h : r.result = .ok a) (next : α → Report β) :
    r >>= next = ⟨r.transcript ++ (next a).transcript, (next a).result⟩ := by
  change Report.bind r next = _
  simp [Report.bind, h]

theorem bind_of_error {r : Report α} {f : Failure} (h : r.result = .error f)
    (next : α → Report β) : r >>= next = ⟨r.transcript, .error f⟩ := by
  change Report.bind r next = _
  simp [Report.bind, h]

end Report

end Lexeme
