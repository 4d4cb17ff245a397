import Lexeme.Proofs.Reports

/-!
# Checking several files

A check goes through its files one by one, up to the first that cannot be read. Each file adds a
line to the output if it is clean, and all its problems to the error output otherwise, whatever the
other files are. A path that cannot be read decides how the check ends, even behind files with
problems; otherwise the files with problems are counted, once for each time that they are given.

## Main definitions

* `SourceFile.isClean`: a file without problems.
* `okLines`, `problemTexts`: what files add to the two outputs.
* `ChecksEach`: what a check writes about the files that it reads.

## Main statements

* `checkPaths_shows`, `checkFiles_shows`: what a check shows about files, and how it ends.
* `checkFiles_alone`: each file adds what a check of it alone shows.
* `checkFiles_checksEach`: a check on all disks and all paths.
-/

namespace Lexeme

open Text

/-- The line about a file without problems. -/
def okLine (name : String) (tokens : Nat) : String :=
  name ++ ": ok (" ++ decimal tokens ++ " tokens)\n"

namespace SourceFile

def isClean (f : SourceFile) : Bool := (check f.content).problems.isEmpty

/-- The line about a file, if it is clean. -/
def okText (f : SourceFile) : String :=
  if f.isClean then okLine f.name (check f.content).tokens else ""

/-- The problems of a file in full, with an empty line behind each of them. -/
def problemText (f : SourceFile) : String :=
  String.join ((check f.content).problems.map fun p => p.render f ++ "\n\n")

theorem problemText_of_isClean {f : SourceFile} (h : f.isClean = true) : f.problemText = "" := by
  have hproblems : (check f.content).problems = [] := List.isEmpty_iff.mp h
  rw [problemText, hproblems]
  rfl

end SourceFile

/-- The lines about the clean ones among some files. -/
def okLines (files : List SourceFile) : String :=
  String.join ((files.filter SourceFile.isClean).map fun f =>
    okLine f.name (check f.content).tokens)

/-- The problems of all files that are not clean. -/
def problemTexts (files : List SourceFile) : String :=
  String.join ((files.filter fun f => !f.isClean).flatMap fun f =>
    (check f.content).problems.map fun p => p.render f ++ "\n\n")

theorem okLines_eq (files : List SourceFile) :
    okLines files = String.join (files.map SourceFile.okText) := by
  induction files with
  | nil => rfl
  | cons f files ih =>
    rw [List.map_cons, String.join_cons, ← ih]
    cases hf : f.isClean <;> simp [okLines, SourceFile.okText, hf]

theorem problemTexts_eq (files : List SourceFile) :
    problemTexts files = String.join (files.map SourceFile.problemText) := by
  induction files with
  | nil => rfl
  | cons f files ih =>
    rw [List.map_cons, String.join_cons, ← ih]
    cases hf : f.isClean with
    | true => simp [problemTexts, hf, SourceFile.problemText_of_isClean hf]
    | false => simp [problemTexts, hf, SourceFile.problemText]

/-! ## One file -/

theorem out_map_err {α : Type} (f : α → String) (xs : List α) :
    Transcript.out (xs.map fun x => .err (f x)) = "" := by
  induction xs with
  | nil => rfl
  | cons x xs ih => simp [Writing.out?, ih]

theorem err_map_err {α : Type} (f : α → String) (xs : List α) :
    Transcript.err (xs.map fun x => .err (f x)) = String.join (xs.map f) := by
  induction xs with
  | nil => rfl
  | cons x xs ih => simp [Writing.err?, ih]

theorem checkWritings_of_isClean {f : SourceFile} (h : f.isClean = true) :
    checkWritings f = [.out (okLine f.name (check f.content).tokens)] := by
  simp only [checkWritings]
  exact if_pos h

theorem checkWritings_of_not_isClean {f : SourceFile} (h : ¬ f.isClean = true) :
    checkWritings f = (check f.content).problems.map (fun p => .err (p.render f ++ "\n\n")) ++
      [.log (.problemsFound f.name (check f.content).problems.length)] := by
  simp only [checkWritings]
  exact if_neg h

theorem out_checkWritings (f : SourceFile) : (checkWritings f).out = f.okText := by
  by_cases h : f.isClean = true
  · simp [checkWritings_of_isClean h, SourceFile.okText, h, Writing.out?]
  · simp [checkWritings_of_not_isClean h, SourceFile.okText, h, Writing.out?, out_map_err]

theorem err_checkWritings (f : SourceFile) : (checkWritings f).err = f.problemText := by
  by_cases h : f.isClean = true
  · simp [checkWritings_of_isClean h, SourceFile.problemText_of_isClean h, Writing.err?]
  · simp [checkWritings_of_not_isClean h, SourceFile.problemText, Writing.err?, err_map_err]

/-! ## Several files -/

variable {d d' : Disk} {paths : List String} {files : List SourceFile} {stop : Option Failure}

/-- The number of files with problems, each counted as often as it occurs. -/
def flawedCount (files : List SourceFile) : Nat := files.countP fun f => !f.isClean

/-- A check shows what the files add that can be read, and counts those with problems. -/
theorem checkPaths_shows (h : Course (readResult d) paths files stop) :
    (checkPaths d paths).Shows (okLines files) (problemTexts files)
      (stop.elim (.ok (flawedCount files)) .error) := by
  rw [okLines_eq, problemTexts_eq]
  induction h with
  | done => exact Report.shows_pure _
  | @refused path _ _ hpath =>
    have hread := readSource_shows d path
    rw [hpath] at hread
    exact hread.bind_error _
  | @taken path paths file files stop hpath _ ih =>
    have hread := readSource_shows d path
    rw [hpath] at hread
    have hwrite := Report.shows_write (.ofEvents (checkEvents file.content) ++ checkWritings file)
    rw [Transcript.out_append, Transcript.out_ofEvents, String.empty_append, out_checkWritings,
      Transcript.err_append, Transcript.err_ofEvents, String.empty_append,
      err_checkWritings] at hwrite
    rw [List.map_cons, List.map_cons, String.join_cons, String.join_cons]
    refine hread.silent_bind (hwrite.bind ?_)
    -- The count is only made up once all files behind this one were read.
    cases stop with
    | none =>
      have hcount : flawedCount (file :: files) =
          if (check file.content).problems.isEmpty then flawedCount files
          else flawedCount files + 1 := by
        cases hfile : (check file.content).problems.isEmpty <;>
          simp [flawedCount, SourceFile.isClean, hfile]
      refine ih.bind_silent ?_
      rw [hcount]
      exact Report.shows_pure _
    | some failure => exact ih.bind_error _

/-- How a check of `total` paths ends that has read `files`. -/
def checkResult (files : List SourceFile) (total : Nat) : Option Failure → Except Failure Unit
  | some failure => .error failure
  | none =>
    if flawedCount files = 0 then .ok () else .error (.problemsFound (flawedCount files) total)

theorem checkFiles_shows (h : Course (readResult d) paths files stop) :
    (checkFiles d paths).Shows (okLines files) (problemTexts files)
      (checkResult files paths.length stop) := by
  have hpaths := checkPaths_shows h
  cases stop with
  | some failure => exact hpaths.bind_error _
  | none =>
    refine hpaths.bind_silent ?_
    by_cases hcount : flawedCount files = 0
    · simpa [checkResult, hcount] using Report.shows_pure ()
    · simpa [checkResult, hcount, Nat.pos_of_ne_zero hcount] using Report.shows_fail

/-- Each file adds what a check of it alone shows. The disk may be another one, as long as it has
the same files. -/
theorem checkFiles_alone {front : List String}
    (h : List.Forall₂ (fun p f => readResult d p = .ok f) front files)
    (hread : ∀ p ∈ front, readResult d' p = readResult d p) :
    okLines files = String.join (front.map fun p => (checkFiles d' [p]).transcript.out) ∧
      problemTexts files = String.join (front.map fun p => (checkFiles d' [p]).transcript.err) := by
  induction h with
  | nil => exact ⟨rfl, rfl⟩
  | @cons p f front files hp _ ih =>
    obtain ⟨hp', hfront⟩ := List.forall_mem_cons.mp hread
    obtain ⟨hout, herr⟩ := ih hfront
    have halone := checkFiles_shows (.taken (hp'.trans hp) .done)
    rw [List.map_cons, List.map_cons, String.join_cons, String.join_cons, halone.out, halone.err,
      ← hout, ← herr]
    simp [okLines_eq, problemTexts_eq]

/-! ## Every check -/

/-- What a check of `paths` writes about `files`, which stand at the first of the paths. -/
structure ChecksEach (d : Disk) (paths front : List String) (files : List SourceFile) : Prop where
  names : files.map SourceFile.name = front
  out : (checkFiles d paths).transcript.out = okLines files
  err : (checkFiles d paths).transcript.err = problemTexts files
  /-- A file adds what a check of it alone shows, on every disk that has it there. -/
  alone : ∀ d', (∀ p ∈ front, readResult d' p = readResult d p) →
    (checkFiles d paths).transcript.out =
        String.join (front.map fun p => (checkFiles d' [p]).transcript.out) ∧
      (checkFiles d paths).transcript.err =
        String.join (front.map fun p => (checkFiles d' [p]).transcript.err)

/-- A check writes about each file in front of the first path that cannot be read, and fails with
that path. If all can be read, it fails exactly if there are files with problems, and tells how
many of how many. -/
theorem checkFiles_checksEach (d : Disk) (paths : List String) : ∃ front files,
    List.Forall₂ (fun p f => readResult d p = .ok f) front files ∧
      ChecksEach d paths front files ∧
      ((∃ path rest failure, paths = front ++ path :: rest ∧ readResult d path = .error failure ∧
          failure.family = .fileOperation ∧ (checkFiles d paths).result = .error failure) ∨
        front = paths ∧
          if flawedCount files = 0 then (checkFiles d paths).result = .ok ()
          else ∃ failure, (checkFiles d paths).result = .error failure ∧ failure.family = .lex ∧
            failure.detail = decimal (flawedCount files) ++ " of " ++ decimal paths.length ++
              " files had lexical errors") := by
  obtain ⟨files, stop, h⟩ := exists_course (readResult d) paths
  have hshows := checkFiles_shows h
  have heach : ∀ front, List.Forall₂ (fun p f => readResult d p = .ok f) front files →
      ChecksEach d paths front files := by
    intro front hfront
    refine ⟨map_eq_of_forall₂ name_of_readResult hfront, hshows.out, hshows.err, ?_⟩
    intro d' hread
    rw [hshows.out, hshows.err]
    exact checkFiles_alone hfront hread
  cases stop with
  | some failure =>
    obtain ⟨front, path, rest, hpaths, hfront, hpath⟩ := h.exists_split
    refine ⟨front, files, hfront, heach front hfront, .inl ⟨path, rest, failure, hpaths, hpath, ?_⟩⟩
    constructor
    · exact family_of_readResult hpath
    · exact hshows.result
  | none =>
    have hall := course_none_iff.mp h
    refine ⟨paths, files, hall, heach paths hall, .inr ⟨rfl, ?_⟩⟩
    have hresult := hshows.result
    rw [checkResult] at hresult
    by_cases hcount : flawedCount files = 0
    · rw [if_pos hcount] at hresult ⊢
      exact hresult
    · rw [if_neg hcount] at hresult ⊢
      exact ⟨_, hresult, rfl, rfl⟩

end Lexeme
