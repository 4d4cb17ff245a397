import Lexeme.Proofs.Checking
import Lexeme.Proofs.Coverage
import Lexeme.Proofs.Rejection

/-!
# The verdict of the commands

Checking goes on behind a problem, strict listing stops at it, and strict counting keeps back what
it has to say; yet all three find the same inputs good: paths that can be read, of files without
problems. And then they agree on how many tokens each file has, if counting is granted the end token
that it leaves out.

## Main definitions

* `Acceptable`: the files at some paths, all of them clean.
* `AcceptedOutputs`: what the three commands write about good inputs.

## Main statements

* `tokens_check_of_isClean`, `total_tally_scanned`: the three ways to count the tokens of a file.
* `checkFiles_ok_iff`, `listTokens_ok_iff`, `countTokens_ok_iff`: when the commands succeed.
* `commands_accept_alike`: the commands agree on all disks and all paths.
-/

namespace Lexeme

/-- The file with its tokens. -/
def SourceFile.scanned (f : SourceFile) : ScannedFile := ⟨f.name, tokenize f.content⟩

/-! ## Counting the tokens of one file -/

/-- In a clean file, a check counts all tokens. -/
theorem tokens_check_of_isClean {f : SourceFile} (h : f.isClean = true) :
    (check f.content).tokens = (tokenize f.content).length := by
  have hproblems : (check f.content).problems = [] := List.isEmpty_iff.mp h
  rw [problems_check_eq, List.filterMap_eq_nil_iff] at hproblems
  have hall : ∀ p ∈ stream f.content, p.2.isNone = true := by
    intro p hp
    simp [hproblems p hp]
  rw [tokens_check_eq, tokenize_eq, List.length_map, List.countP_eq_length.mpr hall]

/-- There is one end token, and the tally leaves it out. -/
theorem total_tally_scanned (f : SourceFile) :
    1 + f.scanned.tally.total = (tokenize f.content).length := by
  -- All tokens but the last are counted, and the last is the end token.
  obtain ⟨body, last, hstream, hbody, hlast⟩ := (stream_spec f.content).ends
  have hcount : ∀ t ∈ body.map Prod.fst, (!t.isEof) = true := by
    intro t ht
    obtain ⟨p, hp, rfl⟩ := List.mem_map.mp ht
    simpa [Token.isEof] using hbody p hp
  have hend : last.1.isEof = true := by simp [hlast, Token.isEof, Token.endAt]
  have htokens : tokenize f.content = body.map Prod.fst ++ [last.1] := by
    rw [tokenize_eq, hstream, List.map_append, List.map_singleton]
  rw [ScannedFile.tally, Tally.total_ofTokens, SourceFile.scanned, htokens, List.countP_append,
    List.countP_eq_length.mpr hcount, List.countP_singleton, hend, List.length_append,
    List.length_singleton]
  simp [Nat.add_comm]

/-! ## Good inputs -/

/-- The paths can be read, and the files there are clean. -/
def Acceptable (d : Disk) (paths : List String) (files : List SourceFile) : Prop :=
  List.Forall₂ (fun p f => readResult d p = .ok f ∧ f.isClean = true) paths files

/-- Strict scanning accepts the clean files. -/
theorem examine_strict_eq_ok_iff {d : Disk} {path : String} {file : ScannedFile} :
    examine d true path = .ok file ↔
      ∃ f, readResult d path = .ok f ∧ f.isClean = true ∧ f.scanned = file := by
  unfold examine
  cases hread : readResult d path with
  | error failure => simp
  | ok f =>
    cases hproblems : (check f.content).problems with
    | nil => simp [tokenizeStrict_eq_check, SourceFile.isClean, hproblems, SourceFile.scanned]
    | cons problem more => simp [tokenizeStrict_eq_check, SourceFile.isClean, hproblems]

variable {d : Disk} {paths : List String}

theorem course_strict_iff {scanned : List ScannedFile} :
    Course (examine d true) paths scanned none ↔
      ∃ files, Acceptable d paths files ∧ scanned = files.map SourceFile.scanned := by
  rw [course_none_iff]
  constructor
  · intro h
    induction h with
    | nil => exact ⟨[], .nil, rfl⟩
    | cons hpath _ ih =>
      obtain ⟨f, hread, hclean, rfl⟩ := examine_strict_eq_ok_iff.mp hpath
      obtain ⟨files, hfiles, rfl⟩ := ih
      exact ⟨f :: files, .cons ⟨hread, hclean⟩ hfiles, rfl⟩
  · rintro ⟨files, h, rfl⟩
    induction h with
    | nil => exact .nil
    | cons hpath _ ih =>
      exact .cons (examine_strict_eq_ok_iff.mpr ⟨_, hpath.1, hpath.2, rfl⟩) ih

theorem course_read_iff {files : List SourceFile} :
    Course (readResult d) paths files none ∧ flawedCount files = 0 ↔ Acceptable d paths files := by
  rw [course_none_iff, flawedCount, List.countP_eq_zero]
  constructor
  · rintro ⟨h, hclean⟩
    induction h with
    | nil => exact .nil
    | cons hpath _ ih =>
      obtain ⟨hf, hfiles⟩ := List.forall_mem_cons.mp hclean
      exact .cons ⟨hpath, by simpa using hf⟩ (ih hfiles)
  · intro h
    refine ⟨h.imp fun _ _ h => h.1, ?_⟩
    induction h with
    | nil => simp
    | cons hpath _ ih => exact List.forall_mem_cons.mpr ⟨by simp [hpath.2], ih⟩

/-! ## When the commands succeed -/

theorem stopResult_eq_ok_iff {stop : Option Rejection} :
    stopResult () stop = .ok () ↔ stop = none := by
  cases stop <;> simp [stopResult]

theorem checkFiles_ok_iff :
    (checkFiles d paths).result = .ok () ↔ ∃ files, Acceptable d paths files := by
  constructor
  · intro hok
    obtain ⟨files, stop, h⟩ := exists_course (readResult d) paths
    rw [(checkFiles_shows h).result] at hok
    cases stop with
    | some failure => cases hok
    | none =>
      by_cases hcount : flawedCount files = 0
      · exact ⟨files, course_read_iff.mp ⟨h, hcount⟩⟩
      · simp [checkResult, hcount] at hok
  · rintro ⟨files, h⟩
    obtain ⟨hcourse, hcount⟩ := course_read_iff.mpr h
    simp [(checkFiles_shows hcourse).result, checkResult, hcount]

theorem strict_ok_iff {r : Report Unit}
    (h : ∀ files stop, Course (examine d true) paths files stop → r.result = stopResult () stop) :
    r.result = .ok () ↔ ∃ files, Acceptable d paths files := by
  constructor
  · intro hok
    obtain ⟨scanned, stop, hcourse⟩ := exists_course (examine d true) paths
    rw [h scanned stop hcourse, stopResult_eq_ok_iff] at hok
    subst hok
    obtain ⟨files, hfiles, -⟩ := course_strict_iff.mp hcourse
    exact ⟨files, hfiles⟩
  · rintro ⟨files, hfiles⟩
    exact h _ none (course_strict_iff.mpr ⟨files, hfiles, rfl⟩)

theorem listTokens_ok_iff (format : OutputFormat) :
    (listTokens d ⟨paths, format, true⟩).result = .ok () ↔ ∃ files, Acceptable d paths files :=
  strict_ok_iff fun _ _ h => (listTokens_ends h format).choose_spec.result

theorem countTokens_ok_iff (format : OutputFormat) :
    (countTokens d ⟨paths, format, true⟩).result = .ok () ↔ ∃ files, Acceptable d paths files :=
  strict_ok_iff fun _ _ h => (countTokens_shows h format).result

/-! ## What they write then -/

/-- The outputs of the three commands on `files`, which stand at `paths`. The number in the line of
a check is that of the tokens that are listed, each on a line or as an item, and one more than the
total below the counts. -/
structure AcceptedOutputs (d : Disk) (paths : List String) (files : List SourceFile) : Prop where
  read : List.Forall₂ (fun p f => readResult d p = .ok f) paths files
  names : files.map SourceFile.name = paths
  checked : (checkFiles d paths).transcript.out =
    String.join (files.map fun f => okLine f.name (tokenize f.content).length)
  listed : (listTokens d ⟨paths, .text, true⟩).transcript.out =
    listingText (decide (paths.length > 1)) (files.map SourceFile.scanned)
  listedJson : ListsAsJson (listTokens d ⟨paths, .json, true⟩).transcript.out
    (files.map SourceFile.scanned)
  counted : (countTokens d ⟨paths, .text, true⟩).transcript.out =
    tablesText (files.map SourceFile.scanned)
  countedJson : CountsAsJson (countTokens d ⟨paths, .json, true⟩).transcript.out
    (files.map SourceFile.scanned)
  totals : ∀ f ∈ files, 1 + f.scanned.tally.total = (tokenize f.content).length

theorem Acceptable.okLines {files : List SourceFile} (h : Acceptable d paths files) :
    okLines files =
      String.join (files.map fun f => okLine f.name (tokenize f.content).length) := by
  rw [okLines_eq]
  induction h with
  | nil => rfl
  | @cons _ f _ _ hpath _ ih =>
    have hline : f.okText = okLine f.name (tokenize f.content).length := by
      rw [SourceFile.okText, if_pos hpath.2, tokens_check_of_isClean hpath.2]
    rw [List.map_cons, List.map_cons, String.join_cons, String.join_cons, hline, ih]

theorem Acceptable.outputs {files : List SourceFile} (h : Acceptable d paths files) :
    AcceptedOutputs d paths files := by
  have hread := (course_read_iff.mpr h).1
  have hall := course_none_iff.mp hread
  have hstrict := course_strict_iff.mpr ⟨files, h, rfl⟩
  refine ⟨hall, map_eq_of_forall₂ name_of_readResult hall, ?_, ?_, ?_, ?_, ?_, ?_⟩
  · rw [(checkFiles_shows hread).out, h.okLines]
  · exact (listTokens_text_shows hstrict).out
  · have hlength : paths.length = (files.map SourceFile.scanned).length := by
      rw [List.length_map, hall.length_eq]
    rw [(listTokens_json_shows hstrict).out, hlength]
    exact listsAsJson_tokensJsonText _
  · exact (countTokens_shows hstrict .text).out
  · rw [(countTokens_shows hstrict .json).out]
    exact countsAsJson_tallyJsonText _
  · intro f _
    exact total_tally_scanned f

/-- A check succeeds exactly if strict listing does and exactly if strict counting does, in both
formats; and then they agree on the number of tokens of each file. -/
theorem commands_accept_alike (d : Disk) (paths : List String) :
    (∀ format, (listTokens d ⟨paths, format, true⟩).result = .ok () ↔
        (checkFiles d paths).result = .ok ()) ∧
      (∀ format, (countTokens d ⟨paths, format, true⟩).result = .ok () ↔
        (checkFiles d paths).result = .ok ()) ∧
      ((checkFiles d paths).result = .ok () → ∃ files, AcceptedOutputs d paths files) := by
  refine ⟨?_, ?_, ?_⟩
  · intro format
    rw [listTokens_ok_iff, checkFiles_ok_iff]
  · intro format
    rw [countTokens_ok_iff, checkFiles_ok_iff]
  · intro hok
    obtain ⟨files, hfiles⟩ := checkFiles_ok_iff.mp hok
    exact ⟨files, hfiles.outputs⟩

end Lexeme
