import Lexeme.Command.Check
import Lexeme.Command.Count
import Mathlib.Data.List.Forall2

/-!
# What commands show

A command shows three things: what it writes to the output, what it writes to the error output, and
how it ends. The log is left out of this view. Commands are put together from reports, and what the
whole shows follows from what the parts show.

Commands that work through paths stop at the first one that is refused. How far they come is told by
a relation of its own, which takes the paths one by one and says nothing about what is written.

## Main definitions

* `Report.Shows`: the three things that a report shows.
* `Course`: how far a list is worked through, and what ends the work.
* `readResult`: what becomes of a path that is read.

## Main statements

* `Report.Shows.bind`, `Report.Shows.bind_error`: going on after a value, and stopping at a failure.
* `exists_course`: work on a list either comes to its end or is stopped somewhere.
* `Course.exists_split`: where it is stopped.
* `readSource_shows`, `readSource_congr`: reading writes nothing, and only its result matters.
-/

namespace Lexeme

namespace Report

variable {α β : Type} {out err out' err' : String} {failure : Failure}

/-- The report writes `out` and `err` and ends with `result`. -/
structure Shows (r : Report α) (out err : String) (result : Except Failure α) : Prop where
  out : r.transcript.out = out
  err : r.transcript.err = err
  result : r.result = result

theorem shows_pure (a : α) : (pure a : Report α).Shows "" "" (.ok a) := ⟨rfl, rfl, rfl⟩

theorem shows_fail : (fail failure : Report α).Shows "" "" (.error failure) := ⟨rfl, rfl, rfl⟩

theorem shows_write (t : Transcript) : (write t).Shows t.out t.err (.ok ()) := ⟨rfl, rfl, rfl⟩

theorem shows_write_out (text : String) : (write [.out text]).Shows text "" (.ok ()) :=
  ⟨by simp [write, Writing.out?], rfl, rfl⟩

/-- After a value the report goes on, and both parts are shown. -/
theorem Shows.bind {r : Report α} {a : α} {next : α → Report β} {result : Except Failure β}
    (h : r.Shows out err (.ok a)) (hnext : (next a).Shows out' err' result) :
    (r >>= next).Shows (out ++ out') (err ++ err') result := by
  rw [bind_of_ok h.result]
  refine ⟨?_, ?_, hnext.result⟩
  · rw [Transcript.out_append, h.out, hnext.out]
  · rw [Transcript.err_append, h.err, hnext.err]

/-- A part that writes nothing leaves it to the next one what is shown. -/
theorem Shows.silent_bind {r : Report α} {a : α} {next : α → Report β} {result : Except Failure β}
    (h : r.Shows "" "" (.ok a)) (hnext : (next a).Shows out err result) :
    (r >>= next).Shows out err result := by
  have := h.bind hnext
  rwa [String.empty_append, String.empty_append] at this

/-- A part that writes nothing adds nothing to what was shown before. -/
theorem Shows.bind_silent {r : Report α} {a : α} {next : α → Report β} {result : Except Failure β}
    (h : r.Shows out err (.ok a)) (hnext : (next a).Shows "" "" result) :
    (r >>= next).Shows out err result := by
  have := h.bind hnext
  rwa [String.append_empty, String.append_empty] at this

/-- A failure ends the report. -/
theorem Shows.bind_error {r : Report α} (h : r.Shows out err (.error failure))
    (next : α → Report β) : (r >>= next).Shows out err (.error failure) := by
  rw [bind_of_error h.result]
  exact ⟨h.out, h.err, rfl⟩

end Report

/-! ## Working through a list -/

section Course

variable {α β ε : Type} {step : α → Except ε β}

/-- `Course step xs ys stop`: one after the other, `step` takes the first of `xs` to `ys`. Then
either none is left, or the next one is refused with the error in `stop`. -/
inductive Course (step : α → Except ε β) : List α → List β → Option ε → Prop
  | done : Course step [] [] none
  | refused {x : α} {xs : List α} {e : ε} (h : step x = .error e) :
      Course step (x :: xs) [] (some e)
  | taken {x : α} {xs : List α} {y : β} {ys : List β} {stop : Option ε} (h : step x = .ok y)
      (hrest : Course step xs ys stop) : Course step (x :: xs) (y :: ys) stop

theorem exists_course (step : α → Except ε β) (xs : List α) :
    ∃ ys stop, Course step xs ys stop := by
  induction xs with
  | nil => exact ⟨[], none, .done⟩
  | cons x xs ih =>
    cases h : step x with
    | error e => exact ⟨[], some e, .refused h⟩
    | ok y =>
      obtain ⟨ys, stop, hrest⟩ := ih
      exact ⟨y :: ys, stop, .taken h hrest⟩

/-- Work that is not stopped takes every element. -/
theorem course_none_iff {xs : List α} {ys : List β} :
    Course step xs ys none ↔ List.Forall₂ (fun x y => step x = .ok y) xs ys := by
  constructor
  · intro h
    generalize hstop : (none : Option ε) = stop at h
    induction h with
    | done => exact .nil
    | refused => cases hstop
    | taken h _ ih => exact .cons h (ih hstop)
  · intro h
    induction h with
    | nil => exact .done
    | cons h _ ih => exact .taken h ih

/-- If what is taken tells which element it comes from, the elements can be read off. -/
theorem map_eq_of_forall₂ {xs : List α} {ys : List β} {origin : β → α}
    (horigin : ∀ {x y}, step x = .ok y → origin y = x)
    (h : List.Forall₂ (fun x y => step x = .ok y) xs ys) : ys.map origin = xs := by
  induction h with
  | nil => rfl
  | cons hx _ ih => rw [List.map_cons, horigin hx, ih]

/-- The element that stops the work is the first one that is refused. -/
theorem Course.exists_split {xs : List α} {ys : List β} {e : ε} (h : Course step xs ys (some e)) :
    ∃ front x rest, xs = front ++ x :: rest ∧
      List.Forall₂ (fun x y => step x = .ok y) front ys ∧ step x = .error e := by
  generalize hstop : some e = stop at h
  induction h with
  | done => cases hstop
  | @refused x xs _ hx =>
    cases hstop
    exact ⟨[], x, xs, rfl, .nil, hx⟩
  | @taken x _ _ _ _ hx _ ih =>
    obtain ⟨front, x', rest, rfl, hfront, hx'⟩ := ih hstop
    exact ⟨x :: front, x', rest, rfl, .cons hx hfront, hx'⟩

end Course

/-! ## Reading -/

/-- The file at a path, or why it cannot be read. -/
def readResult (d : Disk) (path : String) : Except Failure SourceFile := (readSource d path).result

/-- Reading a path writes nothing; all else that it does follows from its result. -/
theorem readSource_eq (d : Disk) (path : String) :
    readSource d path =
      match readResult d path with
      | .ok file => ⟨[.log (.readInput path file.content.utf8ByteSize)], .ok file⟩
      | .error failure => .fail failure := by
  unfold readResult readSource
  split
  · rfl
  · split
    · rfl
    · split <;> rfl

theorem readSource_shows (d : Disk) (path : String) :
    (readSource d path).Shows "" "" (readResult d path) := by
  rw [readSource_eq]
  cases readResult d path with
  | ok file => exact ⟨by simp [Writing.out?], by simp [Writing.err?], rfl⟩
  | error failure => exact Report.shows_fail

theorem readSource_congr {d d' : Disk} {path : String}
    (h : readResult d path = readResult d' path) : readSource d path = readSource d' path := by
  rw [readSource_eq, readSource_eq, h]

/-- A file is named like its path. -/
theorem name_of_readResult {d : Disk} {path : String} {file : SourceFile}
    (h : readResult d path = .ok file) : file.name = path := by
  unfold readResult readSource Report.fail at h
  grind

/-- A path that cannot be read is a matter of files. -/
theorem family_of_readResult {d : Disk} {path : String} {failure : Failure}
    (h : readResult d path = .error failure) : failure.family = .fileOperation := by
  unfold readResult readSource Report.fail at h
  grind [Failure.family]

end Lexeme
