import Lexeme.Proofs.Layout
import Lexeme.Proofs.Reports
import Lexeme.Proofs.Stream

/-!
# Rejected files

Listing and counting tokens stop at the first file that is rejected: one that cannot be read or, if
scanning is strict, one that has a problem. Both commands fail for the same reason and write the
same to the error output. Counting has written nothing to the output by then, and neither has a
JSON listing; a text listing has written what belongs to the files before. What stands behind the
rejected file is not looked at.

## Main definitions

* `Rejection`: why a path is rejected.
* `examine`: the tokens of a path or its rejection, apart from everything that is written.
* `ScanCompletes`, `ScanStops`: what the two commands show in the end.

## Main statements

* `scanPath_shows`, `scanPaths_shows`: what one path shows, and then several.
* `scanPaths_congr`: scanning does not look behind a rejected path.
* `scanCommands_complete_or_stop`: the two commands on all disks and all paths.
-/

namespace Lexeme

/-- Why a path is rejected. -/
inductive Rejection where
  /-- It cannot be read. -/
  | unread (failure : Failure)
  /-- It can be read, but scanning is strict and meets a problem. -/
  | flawed (file : SourceFile) (problem : Problem)

namespace Rejection

def failure : Rejection → Failure
  | unread failure => failure
  | flawed file _ => .notTokenized file.name

def family : Rejection → FailureFamily
  | unread _ => .fileOperation
  | flawed .. => .lex

/-- What is written to the error output. -/
def errorText : Rejection → String
  | unread _ => ""
  | flawed file problem => problem.render file ++ "\n"

end Rejection

/-- The file at a path and its tokens, or why the path is rejected. -/
def examine (d : Disk) (strict : Bool) (path : String) : Except Rejection ScannedFile :=
  match readResult d path with
  | .error failure => .error (.unread failure)
  | .ok file =>
    if strict then
      match tokenizeStrict file.content with
      | .error problem => .error (.flawed file problem)
      | .ok tokens => .ok ⟨file.name, tokens⟩
    else .ok ⟨file.name, tokenize file.content⟩

/-- A strict run ends with the first problem that a check finds, or else has all tokens. -/
theorem tokenizeStrict_eq_check (text : String) :
    tokenizeStrict text =
      match (check text).problems with
      | [] => .ok (tokenize text)
      | problem :: _ => .error problem := by
  rw [problems_check_eq, tokenize_eq]
  exact tokenizeStrict_eq text

section Examine

variable {d : Disk} {strict : Bool} {path : String} {rejection : Rejection}

/-- The ways in which a path is rejected. -/
theorem examine_error_cases (h : examine d strict path = .error rejection) :
    (∃ failure, readResult d path = .error failure ∧ rejection = .unread failure) ∨
      ∃ file problem, readResult d path = .ok file ∧ strict = true ∧
        (check file.content).problems.head? = some problem ∧ rejection = .flawed file problem := by
  unfold examine at h
  cases hread : readResult d path with
  | error failure => grind
  | ok file =>
    cases hproblems : (check file.content).problems with
    | nil => grind [tokenizeStrict_eq_check]
    | cons problem more => grind [tokenizeStrict_eq_check]

theorem name_of_examine {file : ScannedFile} (h : examine d strict path = .ok file) :
    file.name = path := by
  unfold examine at h
  cases hread : readResult d path with
  | error failure => grind
  | ok f => grind [name_of_readResult]

theorem family_of_examine (h : examine d strict path = .error rejection) :
    rejection.failure.family = rejection.family := by
  obtain ⟨failure, hread, rfl⟩ | ⟨file, problem, -, -, -, rfl⟩ := examine_error_cases h
  · exact family_of_readResult hread
  · rfl

theorem head?_problems_of_examine {file : SourceFile} {problem : Problem}
    (h : examine d strict path = .error (.flawed file problem)) :
    (check file.content).problems.head? = some problem := by
  obtain ⟨failure, -, heq⟩ | ⟨file', problem', -, -, hfirst, heq⟩ := examine_error_cases h
  · cases heq
  · cases heq
    exact hfirst

theorem errorText_of_examine (h : examine d false path = .error rejection) :
    rejection.errorText = "" := by
  obtain ⟨failure, -, rfl⟩ | ⟨_, _, -, hstrict, -⟩ := examine_error_cases h
  · rfl
  · cases hstrict

end Examine

/-- What the error output says about what stopped the work, if anything did. -/
def stopText (stop : Option Rejection) : String := stop.elim "" Rejection.errorText

/-- How work ends that yields `value` unless it is stopped. -/
def stopResult {α : Type} (value : α) (stop : Option Rejection) : Except Failure α :=
  stop.elim (.ok value) fun rejection => .error rejection.failure

/-! ## One path -/

theorem scanLeniently_shows (file : SourceFile) :
    (scanLeniently file).Shows "" "" (.ok (tokenize file.content)) := by
  refine ⟨?_, ?_, ?_⟩
  · simp [scanLeniently]
  · simp [scanLeniently]
  · simp [scanLeniently, tokenizeWith_eq, tokenize_eq]

theorem scanStrictly_shows (file : SourceFile) :
    (scanStrictly file).Shows ""
      (match tokenizeStrict file.content with
        | .ok _ => ""
        | .error problem => problem.render file ++ "\n")
      ((tokenizeStrict file.content).mapError fun _ => .notTokenized file.name) := by
  unfold scanStrictly
  cases tokenizeStrict file.content with
  | ok tokens => exact ⟨by simp, by simp, rfl⟩
  | error problem => exact ⟨by simp [Writing.out?], by simp [Writing.err?], rfl⟩

/-- What scanning a path shows, read off its examination. -/
theorem scanPath_shows (d : Disk) (strict : Bool) (path : String) :
    (scanPath d strict path).Shows ""
      (match examine d strict path with
        | .ok _ => ""
        | .error rejection => rejection.errorText)
      ((examine d strict path).mapError Rejection.failure) := by
  have hread := readSource_shows d path
  unfold scanPath examine
  cases hresult : readResult d path with
  | error failure =>
    rw [hresult] at hread
    exact hread.bind_error _
  | ok file =>
    rw [hresult] at hread
    refine hread.silent_bind ?_
    cases strict with
    | false => exact (scanLeniently_shows file).silent_bind (Report.shows_pure _)
    | true =>
      have hscan := scanStrictly_shows file
      cases hstrict : tokenizeStrict file.content with
      | ok tokens =>
        rw [hstrict] at hscan
        simp only [if_true, hstrict]
        exact hscan.silent_bind (Report.shows_pure _)
      | error problem =>
        rw [hstrict] at hscan
        simp only [if_true, hstrict]
        exact hscan.bind_error _

/-! ## Several paths -/

variable {d d' : Disk} {strict : Bool} {paths : List String} {files : List ScannedFile}
  {stop : Option Rejection}

/-- Scanning shows the listings of the files before the first one that is rejected, and stops
there. -/
theorem scanPaths_shows (h : Course (examine d strict) paths files stop)
    (listing : Nat → ScannedFile → Transcript) (hlisting : ∀ i f, (listing i f).err = "")
    (index : Nat) :
    (scanPaths d strict listing index paths).Shows
      (String.join (files.mapIdx fun i f => (listing (index + i) f).out)) (stopText stop)
      (stopResult files stop) := by
  induction h generalizing index with
  | done => exact Report.shows_pure _
  | @refused path _ _ hpath =>
    have hscan := scanPath_shows d strict path
    rw [hpath] at hscan
    exact hscan.bind_error _
  | @taken path paths file files stop hpath _ ih =>
    have hscan := scanPath_shows d strict path
    rw [hpath] at hscan
    have hwrite := Report.shows_write (listing index file)
    rw [hlisting] at hwrite
    have hrest := ih (index + 1)
    -- The files behind this one are listed with their place among all paths, not among the rest.
    have hindex : ∀ i, index + 1 + i = index + (i + 1) := by omega
    simp only [hindex] at hrest
    rw [List.mapIdx_cons, String.join_cons]
    refine hscan.silent_bind ?_
    rw [← String.empty_append (s := stopText stop)]
    refine hwrite.bind ?_
    cases stop with
    | none => exact hrest.bind_silent (Report.shows_pure (file :: files))
    | some rejection => exact hrest.bind_error _

theorem scanPaths_shows_silent (h : Course (examine d strict) paths files stop) :
    (scanPaths d strict (fun _ _ => []) 0 paths).Shows "" (stopText stop)
      (stopResult files stop) := by
  have hjoin : ∀ files : List ScannedFile, String.join (files.mapIdx fun _ _ => "") = "" := by
    intro files
    induction files with
    | nil => rfl
    | cons file files ih => rw [List.mapIdx_cons, String.join_cons, String.empty_append, ih]
  have hscan := scanPaths_shows h (fun _ _ => []) (fun _ _ => rfl) 0
  rwa [show (fun (_ : Nat) (_ : ScannedFile) => Transcript.out []) = fun _ _ => "" from rfl,
    hjoin] at hscan

theorem scanPath_congr {path : String} (h : readResult d' path = readResult d path) :
    scanPath d' strict path = scanPath d strict path := by
  rw [scanPath, scanPath, readSource_congr h]

/-- Scanning does not look behind a path that is rejected. If that is the first path, it does not
matter either how files are listed. -/
theorem scanPaths_congr {front rest rest' : List String} {path : String} {rejection : Rejection}
    {listing listing' : Nat → ScannedFile → Transcript}
    (hpath : examine d strict path = .error rejection)
    (hread : ∀ p ∈ front ++ [path], readResult d' p = readResult d p)
    (hlisting : front ≠ [] → listing' = listing) (index : Nat) :
    scanPaths d' strict listing' index (front ++ path :: rest') =
      scanPaths d strict listing index (front ++ path :: rest) := by
  induction front generalizing index with
  | nil =>
    have hscan := (scanPath_shows d strict path).result
    rw [hpath] at hscan
    simp only [List.nil_append, scanPaths, scanPath_congr (hread path (by simp)),
      Report.bind_of_error hscan]
  | cons p front ih =>
    obtain rfl := hlisting (by simp)
    rw [List.cons_append] at hread
    obtain ⟨hp, hfront⟩ := List.forall_mem_cons.mp hread
    simp only [List.cons_append, scanPaths, scanPath_congr hp, ih hfront (fun _ => rfl)]

/-! ## Both commands -/

theorem Course.length_le {ys : List ScannedFile} (h : Course (examine d strict) paths ys stop) :
    ys.length ≤ paths.length := by
  induction h with
  | done | refused => simp
  | taken _ _ ih => simpa using ih

/-- Up to where it is stopped, a text listing has written the files before. -/
theorem listTokens_text_shows (h : Course (examine d strict) paths files stop) :
    (listTokens d ⟨paths, .text, strict⟩).Shows (listingText (decide (paths.length > 1)) files)
      (stopText stop) (stopResult () stop) := by
  have hscan := scanPaths_shows h
    (fun i f => [.out (tokenBlock (decide (paths.length > 1)) i f)])
    (by simp [Writing.err?]) 0
  have hsingle : decide (paths.length > 1) = false → files.length ≤ 1 := by
    intro hpaths
    have hle := h.length_le
    simp only [decide_eq_false_iff_not] at hpaths
    omega
  simp only [Transcript.out_cons, Transcript.out_nil, Writing.out?, Option.getD_some,
    String.append_empty, Nat.zero_add, join_tokenBlock hsingle] at hscan
  cases stop with
  | none => exact hscan.bind_silent (Report.shows_pure ())
  | some rejection => exact hscan.bind_error _

/-- A JSON listing is written at the end. -/
theorem listTokens_json_shows (h : Course (examine d strict) paths files stop) :
    (listTokens d ⟨paths, .json, strict⟩).Shows
      (stop.elim (tokensJsonText (decide (paths.length > 1)) files ++ "\n") fun _ => "")
      (stopText stop) (stopResult () stop) := by
  have hscan := scanPaths_shows_silent h
  cases stop with
  | none => exact hscan.silent_bind (Report.shows_write_out _)
  | some rejection => exact hscan.bind_error _

/-- Counts are written at the end, in both formats. -/
theorem countTokens_shows (h : Course (examine d strict) paths files stop) (format : OutputFormat) :
    (countTokens d ⟨paths, format, strict⟩).Shows
      (stop.elim
        (match format with
          | .text => tablesText files
          | .json => tallyJsonText (files.map ScannedFile.tally))
        fun _ => "")
      (stopText stop) (stopResult () stop) := by
  have hscan := scanPaths_shows_silent h
  cases stop with
  | none =>
    refine hscan.silent_bind ?_
    cases format with
    | text =>
      rw [← tallyText_eq]
      exact Report.shows_write_out _
    | json => exact Report.shows_write_out _
  | some rejection => exact hscan.bind_error _

/-- How a listing ends does not depend on the format, nor what it writes to the error output. -/
theorem listTokens_ends (h : Course (examine d strict) paths files stop) (format : OutputFormat) :
    ∃ out, (listTokens d ⟨paths, format, strict⟩).Shows out (stopText stop)
      (stopResult () stop) := by
  cases format with
  | text => exact ⟨_, listTokens_text_shows h⟩
  | json => exact ⟨_, listTokens_json_shows h⟩

/-- Both commands do all of their work on `paths`, which are those of `files`. -/
structure ScanCompletes (d : Disk) (strict : Bool) (paths : List String)
    (files : List ScannedFile) : Prop where
  names : files.map ScannedFile.name = paths
  listing : (listTokens d ⟨paths, .text, strict⟩).Shows
    (listingText (decide (paths.length > 1)) files) "" (.ok ())
  listingJson : ∃ out, (listTokens d ⟨paths, .json, strict⟩).Shows out "" (.ok ()) ∧
    ListsAsJson out files
  counting : (countTokens d ⟨paths, .text, strict⟩).Shows (tablesText files) "" (.ok ())
  countingJson : ∃ out, (countTokens d ⟨paths, .json, strict⟩).Shows out "" (.ok ()) ∧
    CountsAsJson out files

/-- Both commands stop at `path`, behind the paths of `files`, and do not get to `rest`. -/
structure ScanStops (d : Disk) (strict : Bool) (front : List String) (path : String)
    (rest : List String) (files : List ScannedFile) (rejection : Rejection) : Prop where
  names : files.map ScannedFile.name = front
  /-- A path that cannot be read is a matter of files, a problem one of the text. -/
  family : rejection.failure.family = rejection.family
  /-- The problem that is shown is the first one of the file. -/
  first : ∀ file problem, rejection = .flawed file problem →
    (check file.content).problems.head? = some problem
  /-- Without strictness there are no problems to show. -/
  lenient : strict = false → rejection.errorText = ""
  /-- Headers and separators are those for all paths, also for the ones that are never read. -/
  listing : (listTokens d ⟨front ++ path :: rest, .text, strict⟩).Shows
    (listingText (decide ((front ++ path :: rest).length > 1)) files) rejection.errorText
    (.error rejection.failure)
  listingJson : (listTokens d ⟨front ++ path :: rest, .json, strict⟩).Shows ""
    rejection.errorText (.error rejection.failure)
  counting : ∀ format, (countTokens d ⟨front ++ path :: rest, format, strict⟩).Shows ""
    rejection.errorText (.error rejection.failure)
  /-- With other paths behind it and other files on the disk, the reports are the same. -/
  independent : ∀ d' rest', (∀ p ∈ front ++ [path], readResult d' p = readResult d p) → ∀ format,
    listTokens d' ⟨front ++ path :: rest', format, strict⟩ =
        listTokens d ⟨front ++ path :: rest, format, strict⟩ ∧
      countTokens d' ⟨front ++ path :: rest', format, strict⟩ =
        countTokens d ⟨front ++ path :: rest, format, strict⟩

section Independence

variable (format : OutputFormat) {front rest rest' : List String} {path : String}
  {rejection : Rejection}

theorem scanPaths_silent_congr (hpath : examine d strict path = .error rejection)
    (hread : ∀ p ∈ front ++ [path], readResult d' p = readResult d p) (rest' rest : List String) :
    scanPaths d' strict (fun _ _ => []) 0 (front ++ path :: rest') =
      scanPaths d strict (fun _ _ => []) 0 (front ++ path :: rest) :=
  scanPaths_congr hpath hread (fun _ => rfl) 0

theorem countTokens_congr (hpath : examine d strict path = .error rejection)
    (hread : ∀ p ∈ front ++ [path], readResult d' p = readResult d p) :
    countTokens d' ⟨front ++ path :: rest', format, strict⟩ =
      countTokens d ⟨front ++ path :: rest, format, strict⟩ := by
  simp only [countTokens, scanPaths_silent_congr hpath hread rest' rest]

/-- The number of paths decides about headers. It is seen only once a file was listed, and then
there are several paths in any case. -/
theorem listTokens_congr
    (h : Course (examine d strict) (front ++ path :: rest) files (some rejection))
    (hpath : examine d strict path = .error rejection)
    (hread : ∀ p ∈ front ++ [path], readResult d' p = readResult d p) :
    listTokens d' ⟨front ++ path :: rest', format, strict⟩ =
      listTokens d ⟨front ++ path :: rest, format, strict⟩ := by
  cases format with
  | text =>
    have hseveral : ∀ later : List String, front ≠ [] →
        decide ((front ++ path :: later).length > 1) = true := by
      intro later hfront
      have := List.length_pos_iff.mpr hfront
      simp only [List.length_append, List.length_cons, decide_eq_true_eq]
      omega
    simp only [listTokens]
    rw [scanPaths_congr hpath hread]
    intro hfront
    rw [hseveral rest hfront, hseveral rest' hfront]
  | json =>
    -- The number of paths occurs in what is written after the scan, which is never reached.
    have hfailed := (scanPaths_shows_silent h).result
    simp only [listTokens, scanPaths_silent_congr hpath hread rest' rest]
    rw [Report.bind_of_error hfailed, Report.bind_of_error hfailed]

end Independence

/-! ## Every run -/

/-- Both commands complete their work on all paths, or else stop at the first path that is rejected.
-/
theorem scanCommands_complete_or_stop (d : Disk) (strict : Bool) (paths : List String) :
    (∃ files, List.Forall₂ (fun p f => examine d strict p = .ok f) paths files ∧
        ScanCompletes d strict paths files) ∨
      ∃ front path rest files rejection, paths = front ++ path :: rest ∧
        List.Forall₂ (fun p f => examine d strict p = .ok f) front files ∧
        examine d strict path = .error rejection ∧
        ScanStops d strict front path rest files rejection := by
  obtain ⟨files, stop, h⟩ := exists_course (examine d strict) paths
  cases stop with
  | none =>
    have hall := course_none_iff.mp h
    refine .inl ⟨files, hall, map_eq_of_forall₂ name_of_examine hall, ?_, ?_, ?_, ?_⟩
    · exact listTokens_text_shows h
    · refine ⟨_, listTokens_json_shows h, ?_⟩
      rw [hall.length_eq]
      exact listsAsJson_tokensJsonText files
    · exact countTokens_shows h .text
    · exact ⟨_, countTokens_shows h .json, countsAsJson_tallyJsonText files⟩
  | some rejection =>
    obtain ⟨front, path, rest, rfl, hfront, hpath⟩ := h.exists_split
    refine .inr ⟨front, path, rest, files, rejection, rfl, hfront, hpath, ?_⟩
    refine ⟨?_, ?_, ?_, ?_, ?_, ?_, ?_, ?_⟩
    · exact map_eq_of_forall₂ name_of_examine hfront
    · exact family_of_examine hpath
    · rintro file problem rfl
      exact head?_problems_of_examine hpath
    · rintro rfl
      exact errorText_of_examine hpath
    · exact listTokens_text_shows h
    · exact listTokens_json_shows h
    · exact countTokens_shows h
    · intro d' rest' hread format
      exact ⟨listTokens_congr format h hpath hread, countTokens_congr format hpath hread⟩

end Lexeme
