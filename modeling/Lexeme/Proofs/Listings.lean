import Lexeme.Proofs.JsonText
import Lexeme.Proofs.Tallies
import Lexeme.Proofs.Verdict
import Lexeme.Text.Split

/-!
# What listings tell

A JSON listing tells everything about the tokens but where they end: two listings are equal only if
they are of single files, or of as many files with the same names, and their tokens agree. A text
listing has a line for each token, unless the value of a token goes over several lines. That happens
in string literals only.

## Main definitions

* `Token.Agrees`: tokens that agree in what JSON says of them.
* `SameListing`: lists of files that agree in what JSON says of them.
* `linesOf`: the lines of a text.

## Main statements

* `listTokens_json_eq_iff`: when two JSON listings are equal.
* `listTokens_lines`: the lines of a text listing.
-/

namespace Lexeme

open Text

/-! ## JSON listings -/

/-- Tokens that agree in their kind, their value and the place where they start. -/
structure Token.Agrees (t u : Token) : Prop where
  kind : t.kind = u.kind
  value : t.value = u.value
  position : t.span.start = u.span.start
  line : t.span.line = u.span.line
  column : t.span.column = u.span.column

/-- Single files with the same tokens, or several files with the same names and tokens. -/
inductive SameListing : List ScannedFile → List ScannedFile → Prop
  | single {f g : ScannedFile} (h : List.Forall₂ Token.Agrees f.tokens g.tokens) :
      SameListing [f] [g]
  | several {files files' : List ScannedFile} (hlength : 2 ≤ files.length)
      (h : List.Forall₂ (fun f g => f.name = g.name ∧ List.Forall₂ Token.Agrees f.tokens g.tokens)
        files files') : SameListing files files'

theorem map_eq_map_iff_forall₂ {α β : Type} {f : α → β} {r : α → α → Prop}
    (hf : ∀ x y, f x = f y ↔ r x y) (xs ys : List α) :
    xs.map f = ys.map f ↔ List.Forall₂ r xs ys := by
  rw [← List.forall₂_eq_eq_eq, List.forall₂_map_left_iff, List.forall₂_map_right_iff]
  simp only [hf]

theorem Token.toJson_eq_iff (t u : Token) : t.toJson = u.toJson ↔ t.Agrees u := by
  constructor
  · intro h
    simp only [toJson, Json.object.injEq, List.cons.injEq, Prod.mk.injEq, Json.string.injEq,
      Json.number.injEq, true_and, and_true] at h
    obtain ⟨hkind, hvalue, hposition, hline, hcolumn⟩ := h
    exact ⟨Kind.name_injective hkind, hvalue, hposition, hline, hcolumn⟩
  · rintro ⟨hkind, hvalue, hposition, hline, hcolumn⟩
    rw [toJson, toJson, hkind, hvalue, hposition, hline, hcolumn]

theorem tokensJson_eq_iff (tokens tokens' : List Token) :
    tokensJson tokens = tokensJson tokens' ↔ List.Forall₂ Token.Agrees tokens tokens' := by
  rw [tokensJson, tokensJson, Json.array.injEq]
  exact map_eq_map_iff_forall₂ Token.toJson_eq_iff tokens tokens'

/-- One of several files. -/
def ScannedFile.toJson (f : ScannedFile) : Json :=
  .object [("file", .string f.name), ("tokens", tokensJson f.tokens)]

theorem ScannedFile.toJson_eq_iff (f g : ScannedFile) : f.toJson = g.toJson ↔
    f.name = g.name ∧ List.Forall₂ Token.Agrees f.tokens g.tokens := by
  simp [toJson, tokensJson_eq_iff]

/-- The value that is listed. -/
def listedJson : List ScannedFile → Json
  | [file] => tokensJson file.tokens
  | files => .array (files.map ScannedFile.toJson)

theorem tokensJsonText_eq {files : List ScannedFile} (h : files ≠ []) :
    tokensJsonText (decide (files.length > 1)) files = (listedJson files).pretty := by
  match files with
  | [] => exact absurd rfl h
  | [file] => rfl
  | _ :: _ :: _ => rfl

theorem listedJson_of_length {files : List ScannedFile} (h : 2 ≤ files.length) :
    listedJson files = .array (files.map ScannedFile.toJson) := by
  match files with
  | _ :: _ :: _ => rfl

theorem single_or_several {files : List ScannedFile} (h : files ≠ []) :
    (∃ f, files = [f]) ∨ 2 ≤ files.length := by
  match files with
  | [] => exact absurd rfl h
  | [f] => exact .inl ⟨f, rfl⟩
  | _ :: _ :: _ => exact .inr (by simp)

/-- A list of tokens is no list of files. -/
theorem tokensJson_ne {files : List ScannedFile} (h : 2 ≤ files.length) (tokens : List Token) :
    tokensJson tokens ≠ .array (files.map ScannedFile.toJson) := by
  match files, tokens with
  | _ :: _, [] => simp [tokensJson]
  | _ :: _, _ :: _ => simp [tokensJson, Token.toJson, ScannedFile.toJson]

theorem listedJson_eq_iff {files files' : List ScannedFile} (h : files ≠ []) (h' : files' ≠ []) :
    listedJson files = listedJson files' ↔ SameListing files files' := by
  constructor
  · intro heq
    obtain ⟨f, rfl⟩ | hlength := single_or_several h
    · obtain ⟨g, rfl⟩ | hlength' := single_or_several h'
      · exact .single ((tokensJson_eq_iff _ _).mp heq)
      · rw [listedJson_of_length hlength'] at heq
        exact absurd heq (tokensJson_ne hlength' f.tokens)
    · rw [listedJson_of_length hlength] at heq
      obtain ⟨g, rfl⟩ | hlength' := single_or_several h'
      · exact absurd heq.symm (tokensJson_ne hlength g.tokens)
      · rw [listedJson_of_length hlength', Json.array.injEq] at heq
        exact .several hlength ((map_eq_map_iff_forall₂ ScannedFile.toJson_eq_iff _ _).mp heq)
  · intro hsame
    cases hsame with
    | single hagree => exact (tokensJson_eq_iff _ _).mpr hagree
    | several hlength hagree =>
      rw [listedJson_of_length hlength, listedJson_of_length (hagree.length_eq ▸ hlength),
        (map_eq_map_iff_forall₂ ScannedFile.toJson_eq_iff _ _).mpr hagree]

/-- A JSON listing that succeeds scans all files, and then it writes them as one value. -/
theorem exists_scanned_of_json {d : Disk} {paths : List String} {strict : Bool}
    (hpaths : paths ≠ []) (h : (listTokens d ⟨paths, .json, strict⟩).result = .ok ()) :
    ∃ files, files ≠ [] ∧
      List.Forall₂ (fun path file => (scanPath d strict path).result = .ok file) paths files ∧
      (listTokens d ⟨paths, .json, strict⟩).transcript.out = (listedJson files).pretty ++ "\n" := by
  obtain ⟨files, stop, hcourse⟩ := exists_course (examine d strict) paths
  have hshows := listTokens_json_shows hcourse
  obtain rfl : stop = none := by rwa [hshows.result, stopResult_eq_ok_iff] at h
  have hscanned := course_none_iff.mp hcourse
  have hfiles : files ≠ [] := by
    rintro rfl
    exact hpaths (List.forall₂_nil_right_iff.mp hscanned)
  refine ⟨files, hfiles, ?_, ?_⟩
  · refine hscanned.imp fun path file hfile => ?_
    rw [(scanPath_shows d strict path).result, hfile]
    rfl
  · rw [hshows.out, hscanned.length_eq, ← tokensJsonText_eq hfiles]
    rfl

/-- Two JSON listings are equal if and only if they are of single files or of as many files with the
same names, and the tokens agree. -/
theorem listTokens_json_eq_iff {d d' : Disk} {paths paths' : List String} {strict strict' : Bool}
    (hpaths : paths ≠ []) (hpaths' : paths' ≠ [])
    (h : (listTokens d ⟨paths, .json, strict⟩).result = .ok ())
    (h' : (listTokens d' ⟨paths', .json, strict'⟩).result = .ok ()) :
    ∃ files files',
      List.Forall₂ (fun path file => (scanPath d strict path).result = .ok file) paths files ∧
      List.Forall₂ (fun path file => (scanPath d' strict' path).result = .ok file) paths' files' ∧
      ((listTokens d ⟨paths, .json, strict⟩).transcript.out =
          (listTokens d' ⟨paths', .json, strict'⟩).transcript.out ↔
        SameListing files files') := by
  obtain ⟨files, hfiles, hscanned, hout⟩ := exists_scanned_of_json hpaths h
  obtain ⟨files', hfiles', hscanned', hout'⟩ := exists_scanned_of_json hpaths' h'
  refine ⟨files, files', hscanned, hscanned', ?_⟩
  rw [hout, hout', String.append_left_inj, Json.pretty_injective.eq_iff,
    listedJson_eq_iff hfiles hfiles']

/-- A disk with one file. -/
def diskOf (name text : String) : Disk := ⟨⟨[([name], .file text.toUTF8)]⟩, []⟩

/-- Blanks do not show in JSON. -/
theorem listTokens_json_eq_of_blanks :
    (listTokens (diskOf "a.cs" "x y") ⟨["a.cs"], .json, false⟩).result = .ok () ∧
    (listTokens (diskOf "b.cs" "x\ty") ⟨["b.cs"], .json, true⟩).result = .ok () ∧
    (listTokens (diskOf "a.cs" "x y") ⟨["a.cs"], .json, false⟩).transcript.out =
      (listTokens (diskOf "b.cs" "x\ty") ⟨["b.cs"], .json, true⟩).transcript.out ∧
    ∃ files files', SameListing files files' ∧
      List.Forall₂ (fun path file =>
        (scanPath (diskOf "a.cs" "x y") false path).result = .ok file) ["a.cs"] files ∧
      List.Forall₂ (fun path file =>
        (scanPath (diskOf "b.cs" "x\ty") true path).result = .ok file) ["b.cs"] files' := by
  have h : (listTokens (diskOf "a.cs" "x y") ⟨["a.cs"], .json, false⟩).result = .ok () := by
    decide +kernel
  have h' : (listTokens (diskOf "b.cs" "x\ty") ⟨["b.cs"], .json, true⟩).result = .ok () := by
    decide +kernel
  have hout : (listTokens (diskOf "a.cs" "x y") ⟨["a.cs"], .json, false⟩).transcript.out =
      (listTokens (diskOf "b.cs" "x\ty") ⟨["b.cs"], .json, true⟩).transcript.out := by
    decide +kernel
  obtain ⟨files, files', hscanned, hscanned', heq⟩ :=
    listTokens_json_eq_iff (by simp) (by simp) h h'
  exact ⟨h, h', hout, files, files', heq.mp hout, hscanned, hscanned'⟩

/-! ## Text listings -/

/-- The lines of a text in which each line ends with a line feed. -/
def linesOf (text : String) : List String :=
  (splitAtChar '\n' text.toList).dropLast.map String.ofList

theorem linesOf_line_append (line text : String) :
    linesOf (line ++ "\n" ++ text) =
      (splitAtChar '\n' line.toList).map String.ofList ++ linesOf text := by
  have hlist : (line ++ "\n" ++ text).toList = line.toList ++ '\n' :: text.toList := by simp
  rw [linesOf, hlist, splitAtChar_append,
    List.dropLast_append_of_ne_nil (splitAtChar_ne_nil '\n' text.toList), List.map_append, linesOf]

theorem linesOf_tokenLines (tokens : List Token) :
    linesOf (tokenLines tokens) =
      tokens.flatMap fun t => (splitAtChar '\n' t.display.toList).map String.ofList := by
  induction tokens with
  | nil => rfl
  | cons t tokens ih =>
    have hcons : tokenLines (t :: tokens) = t.display ++ "\n" ++ tokenLines tokens := by
      simp [tokenLines, String.join_cons]
    rw [hcons, linesOf_line_append, ih, List.flatMap_cons]

/-- Names of kinds and numbers have no line feeds. -/
theorem count_display (t : Token) :
    t.display.toList.count '\n' = t.value.toList.count '\n' := by
  have hname : t.kind.name.toList.count '\n' = 0 := by
    have hall : Kind.all.all (fun k => k.name.toList.count '\n' = 0) = true := by decide +kernel
    simpa using List.all_eq_true.mp hall t.kind t.kind.mem_all
  have hdecimal : ∀ n, (decimal n).toList.count '\n' = 0 := by
    intro n
    rw [List.count_eq_zero]
    exact not_mem_decimal (by decide)
  simp [Token.display, hname, hdecimal]

theorem length_linesOf_tokenLines (tokens : List Token) :
    (linesOf (tokenLines tokens)).length =
      tokens.length + (tokens.map fun t => t.value.toList.count '\n').sum := by
  rw [linesOf_tokenLines]
  induction tokens with
  | nil => rfl
  | cons t tokens ih =>
    rw [List.flatMap_cons, List.length_append, ih, List.length_map, length_splitAtChar,
      count_display, List.length_cons, List.map_cons, List.sum_cons]
    omega

theorem length_linesOf_eq_iff (tokens : List Token) :
    (linesOf (tokenLines tokens)).length = tokens.length ↔
      ∀ t ∈ tokens, '\n' ∉ t.value.toList := by
  simp [length_linesOf_tokenLines, List.sum_eq_zero_iff_forall_eq_nat, List.count_eq_zero]

theorem linesOf_eq_iff (tokens : List Token) :
    linesOf (tokenLines tokens) = tokens.map Token.display ↔
      ∀ t ∈ tokens, '\n' ∉ t.value.toList := by
  constructor
  · intro h
    rw [← length_linesOf_eq_iff, h, List.length_map]
  · intro h
    rw [linesOf_tokenLines, ← List.flatMap_pure_eq_map]
    apply List.flatMap_congr
    intro t ht
    have hline : '\n' ∉ t.display.toList := by
      rw [← List.count_eq_zero, count_display, List.count_eq_zero]
      exact h t ht
    rw [splitAtChar_of_not_mem hline]
    simp

/-- String literals apart, values have no blanks. -/
theorem Piece.Shape.isBlank_of_mem_value {x : Char} {text : List Char} {piece : Piece}
    (h : piece.Shape x text) (hx : isBlank x = false) (hkind : piece.kind ≠ .stringLiteral) :
    ∀ c ∈ piece.value, isBlank c = false := by
  cases h with
  | number _ hdigits =>
    refine List.forall_mem_cons.mpr ⟨hx, fun c hc => ?_⟩
    by_contra hblank
    exact absurd (hdigits c hc) (by simp [isDigit_of_isBlank (by simpa using hblank)])
  | closed | unclosed => exact absurd rfl hkind
  | equal =>
    have hequals : isBlank '=' = false := isBlank_of_mem_punctuation (by decide)
    simp [plain, hx, hequals]
  | word _ hmore =>
    refine List.forall_mem_cons.mpr ⟨hx, fun c hc => ?_⟩
    by_contra hblank
    exact absurd (hmore c hc) (by simp [isIdentContinue_of_isBlank (by simpa using hblank)])
  | _ => simp [plain, Piece.stray, hx]

/-- Only the value of a string literal goes over several lines. -/
theorem kind_of_newline_mem {text : String} {t : Token} (ht : t ∈ tokenize text)
    (h : '\n' ∈ t.value.toList) : t.kind = .stringLiteral := by
  rw [tokenize_eq] at ht
  obtain ⟨p, hp, rfl⟩ := List.mem_map.mp ht
  obtain rfl | ⟨left, x, rest, piece, hx, hshape, -, rfl⟩ := (stream_spec text).mem_cases p hp
  · simp [Token.endAt] at h
  · by_contra hkind
    have hvalue := hshape.isBlank_of_mem_value hx hkind '\n' (by simpa [Piece.tokenAt] using h)
    exact absurd hvalue (by decide +kernel)

/-- What the lines of a text listing `out` are: there is a line for each token, and one more for
each line feed in the value of a string literal. -/
structure TextListing (tokens : List Token) (out : String) : Prop where
  length : (linesOf out).length =
    tokens.length + (tokens.map fun t => t.value.toList.count '\n').sum
  length_iff : (linesOf out).length = tokens.length ↔ ∀ t ∈ tokens, '\n' ∉ t.value.toList
  lines_iff : linesOf out = tokens.map Token.display ↔ ∀ t ∈ tokens, '\n' ∉ t.value.toList
  literal : ∀ t ∈ tokens, '\n' ∈ t.value.toList → t.kind = .stringLiteral

/-- A lenient text listing of a file shows its tokens one a line, unless there are string literals
that go over several lines. -/
theorem listTokens_lines {d : Disk} {path : String} {file : SourceFile}
    (h : readResult d path = .ok file) :
    ∃ out, (listTokens d ⟨[path], .text, false⟩).Shows out "" (.ok ()) ∧
      TextListing (tokenize file.content) out := by
  have hexamine : examine d false path = .ok ⟨file.name, tokenize file.content⟩ := by
    simp [examine, h]
  have hshows := listTokens_text_shows (Course.taken hexamine .done)
  have hout : listingText false [⟨file.name, tokenize file.content⟩] =
      tokenLines (tokenize file.content) := by
    simp [listingText, ScannedFile.listing_false]
  refine ⟨_, ?_, length_linesOf_tokenLines _, length_linesOf_eq_iff _, linesOf_eq_iff _,
    fun t ht => kind_of_newline_mem ht⟩
  rw [← hout]
  exact hshows

theorem listTokens_lines_of_single_line :
    readResult (diskOf "a.cs" "x = \"a b\";") "a.cs" = .ok ⟨"a.cs", "x = \"a b\";"⟩ ∧
      ∃ out, (listTokens (diskOf "a.cs" "x = \"a b\";") ⟨["a.cs"], .text, false⟩).Shows out ""
          (.ok ()) ∧
        linesOf out = (tokenize "x = \"a b\";").map Token.display := by
  have hread : readResult (diskOf "a.cs" "x = \"a b\";") "a.cs" =
      .ok ⟨"a.cs", "x = \"a b\";"⟩ := by decide +kernel
  obtain ⟨out, hshows, hlisting⟩ := listTokens_lines hread
  refine ⟨hread, out, hshows, hlisting.lines_iff.mpr ?_⟩
  decide +kernel

/-- A string literal that goes over two lines is listed in two lines. -/
theorem listTokens_breaks_line :
    readResult (diskOf "a.cs" "\"a\nb\"") "a.cs" = .ok ⟨"a.cs", "\"a\nb\""⟩ ∧
      (tokenize "\"a\nb\"").length = 2 ∧
      linesOf (listTokens (diskOf "a.cs" "\"a\nb\"") ⟨["a.cs"], .text, false⟩).transcript.out =
        ["STRING_LITERAL('a", "b') at 0 (L1:C1)", "EOF('') at 5 (L2:C3)"] := by
  decide +kernel

end Lexeme
