import Lexeme.Proofs.JsonText
import Lexeme.Proofs.Tallies
import Mathlib.Data.List.Forall2

/-!
# Layouts of listings and tables

How tokens and counts are laid out, told without the functions that write them: lines of text by
what stands on them and between them, and JSON by what can be looked up in the one value that a text
can be the form of.

## Main definitions

* `Token.line`, `listingText`: a token and files of tokens in a text listing.
* `tableLine`, `tablesText`: a count and files of counts in a text.
* `Json.WrittenAs`: a text is the form of one value and of no other.
* `Json.Describes`, `ListsAsJson`: a token and files of tokens in JSON.
* `Json.Counts`, `CountsAsJson`: a tally and files of counts in JSON.

## Main statements

* `join_tokenBlock`, `tallyText_eq`: text listings and tables are laid out so.
* `listsAsJson_tokensJsonText`, `countsAsJson_tallyJsonText`: and so are both in JSON.
-/

namespace Lexeme

open Text

def ScannedFile.tally (f : ScannedFile) : Tally := .ofTokens f.name f.tokens

/-! ## Text listings -/

/-- The line above what is said about one of several files. -/
def headerLine (name : String) : String := s!"==> {name} <==\n"

/-- A token in a text listing. -/
def Token.line (t : Token) : String :=
  s!"{t.kind.name}('{t.value}') at {t.span.start} (L{t.span.line}:C{t.span.column})"

/-- A file in a text listing: each of its tokens on a line, below the name of the file if it is one
of several. -/
def ScannedFile.listing (several : Bool) (f : ScannedFile) : String :=
  (if several then headerLine f.name else "") ++ String.join (f.tokens.map fun t => t.line ++ "\n")

/-- The files of a text listing, with an empty line between any two of them. -/
def listingText (several : Bool) (files : List ScannedFile) : String :=
  "\n".intercalate (files.map (ScannedFile.listing several))

theorem intercalate_cons (separator first : String) (rest : List String) :
    separator.intercalate (first :: rest) =
      first ++ String.join (rest.map fun text => separator ++ text) := by
  induction rest generalizing first with
  | nil => simp
  | cons next rest ih =>
    rw [String.intercalate_cons_cons, ih, List.map_cons, String.join_cons, String.append_assoc,
      String.append_assoc]

/-- A file that stands alone has nothing above its tokens. -/
theorem ScannedFile.listing_false (file : ScannedFile) :
    file.listing false = tokenLines file.tokens := by
  have htokens : tokenLines file.tokens =
      String.join (file.tokens.map fun t => t.line ++ "\n") := rfl
  simp [listing, htokens]

theorem ScannedFile.listing_true (file : ScannedFile) :
    file.listing true = header file.name ++ tokenLines file.tokens := rfl

theorem tokenBlock_eq (several : Bool) (index : Nat) (file : ScannedFile) :
    tokenBlock several index file =
      (if several ∧ index > 0 then "\n" else "") ++ file.listing several := by
  cases several with
  | false => simp [tokenBlock, ScannedFile.listing_false]
  | true => simp [tokenBlock, ScannedFile.listing_true, String.append_assoc]

/-- The blocks of several files, and the block of a file that stands alone, are a text listing. -/
theorem join_tokenBlock {several : Bool} {files : List ScannedFile}
    (h : several = false → files.length ≤ 1) :
    String.join (files.mapIdx (tokenBlock several)) = listingText several files := by
  cases files with
  | nil => rfl
  | cons file files =>
    cases several with
    | false =>
      obtain rfl : files = [] := List.eq_nil_of_length_eq_zero (by simpa using h rfl)
      simp [listingText, tokenBlock_eq]
    | true =>
      -- Behind the first block, all indices are positive.
      have hlater : (files.mapIdx fun i => tokenBlock true (i + 1)) =
          files.map fun f => "\n" ++ f.listing true := by
        apply List.ext_getElem
        · simp
        · simp [tokenBlock_eq]
      rw [listingText, List.map_cons, intercalate_cons, List.map_map, List.mapIdx_cons,
        String.join_cons, hlater, tokenBlock_eq]
      simp [Function.comp_def]

/-! ## Tables -/

/-- A line of a table: a name at the left of sixteen columns and a number at the right of eight,
with a space between them. -/
def tableLine (name : String) (n : Nat) : String :=
  String.ofList (name.toList.rightpad 16 ' ') ++ " " ++
    String.ofList ((toString n).toList.leftpad 8 ' ') ++ "\n"

/-- A line for each kind that is counted, and below them the total. -/
def Tally.tableText (tally : Tally) : String :=
  String.join (tally.entries.map fun (name, n) => tableLine name n) ++
    tableLine "total" tally.total

/-- A file in a text of several tables. -/
def Tally.titledText (tally : Tally) : String := headerLine tally.file ++ tally.tableText

/-- The table of a single file stands alone. Otherwise each table has a title, and the last one is
about the tokens of all files; empty lines stand between them. -/
def tablesText : List ScannedFile → String
  | [file] => file.tally.tableText
  | files =>
    "\n".intercalate (files.map (fun file => file.tally.titledText) ++
      [(Tally.ofTokens "all files" (files.flatMap ScannedFile.tokens)).titledText])

theorem Tally.table_eq (tally : Tally) : tally.table = tally.tableText := by
  have hrow : ∀ name n, row name n = tableLine name n := by
    intro name n
    rw [row, tableLine, padRight_eq_rightpad, padLeft_eq_leftpad, decimal_eq_toString]
  simp [table, tableText, entries, hrow, Function.comp_def]

theorem intercalate_append_singleton (separator last : String) (front : List String) :
    separator.intercalate (front ++ [last]) =
      String.join (front.map fun text => text ++ separator) ++ last := by
  induction front with
  | nil => simp
  | cons first front ih =>
    have hmore : front ++ [last] ≠ [] := by simp
    rw [List.cons_append, String.intercalate_cons_of_ne_nil hmore, ih, List.map_cons,
      String.join_cons]
    exact String.append_assoc.symm

/-- Tables with a title, each with an empty line behind it, and the one about all files. -/
theorem join_titledText (files : List ScannedFile) :
    String.join ((files.map ScannedFile.tally).map fun t => header t.file ++ t.table ++ "\n") ++
        header (combinedTally (files.map ScannedFile.tally)).file ++
          (combinedTally (files.map ScannedFile.tally)).table =
      "\n".intercalate (files.map (fun file => file.tally.titledText) ++
        [(Tally.ofTokens "all files" (files.flatMap ScannedFile.tokens)).titledText]) := by
  have hsum : combinedTally (files.map ScannedFile.tally) =
      .ofTokens "all files" (files.flatMap ScannedFile.tokens) :=
    Tally.foldl_merge_ofTokens ScannedFile.name ScannedFile.tokens files (.empty "all files")
  have htitled : ∀ t : Tally, header t.file ++ t.table = t.titledText := by
    intro t
    rw [Tally.table_eq]
    rfl
  rw [intercalate_append_singleton, List.map_map, List.map_map, String.append_assoc, htitled, hsum]
  simp [htitled, Function.comp_def]

theorem tallyText_eq (files : List ScannedFile) :
    tallyText (files.map ScannedFile.tally) = tablesText files := by
  match files with
  | [file] => exact file.tally.table_eq
  | [] => exact join_titledText []
  | first :: second :: files => exact join_titledText (first :: second :: files)

/-! ## JSON -/

namespace Json

/-- The text is the indented form of the value, with a line feed, and of no other value. -/
def WrittenAs (value : Json) (text : String) : Prop :=
  ∀ other : Json, text = other.pretty ++ "\n" ↔ other = value

/-- The keys of an object. -/
def keys : Json → List String
  | object fields => fields.map Prod.fst
  | _ => []

/-- What an object has under a key. -/
def field? (key : String) : Json → Option Json
  | object fields => fields.lookup key
  | _ => none

/-- The object is about the token: its kind, its value and where it starts. -/
structure Describes (item : Json) (t : Token) : Prop where
  keys : item.keys = ["kind", "value", "position", "line", "column"]
  kind : item.field? "kind" = some (.string t.kind.name)
  value : item.field? "value" = some (.string t.value)
  position : item.field? "position" = some (.number t.span.start)
  line : item.field? "line" = some (.number t.span.line)
  column : item.field? "column" = some (.number t.span.column)

/-- The object is about the file: its name, and its tokens one by one. -/
structure ListsFile (item : Json) (f : ScannedFile) : Prop where
  keys : item.keys = ["file", "tokens"]
  file : item.field? "file" = some (.string f.name)
  tokens : ∃ items, item.field? "tokens" = some (.array items) ∧
    List.Forall₂ Describes items f.tokens

/-- The object is about the tally: its name, its total, and a number for each kind that is counted.
-/
structure Counts (item : Json) (tally : Tally) : Prop where
  keys : item.keys = ["file", "total", "counts"]
  file : item.field? "file" = some (.string tally.file)
  total : item.field? "total" = some (.number tally.total)
  counts : item.field? "counts" =
    some (.object (tally.entries.map fun (name, n) => (name, .number n)))

theorem writtenAs_pretty (value : Json) : value.WrittenAs (value.pretty ++ "\n") := by
  intro other
  rw [String.append_left_inj]
  exact ⟨fun h => pretty_injective h.symm, fun h => h ▸ rfl⟩

theorem describes_toJson (t : Token) : t.toJson.Describes t :=
  ⟨rfl, rfl, rfl, rfl, rfl, rfl⟩

theorem forall₂_describes (tokens : List Token) :
    List.Forall₂ Describes (tokens.map Token.toJson) tokens :=
  List.forall₂_map_left_iff.mpr (List.forall₂_same.mpr fun t _ => describes_toJson t)

theorem counts_toJson (tally : Tally) : tally.toJson.Counts tally := by
  refine ⟨rfl, rfl, rfl, ?_⟩
  change some (object (tally.counts.map _)) = _
  simp [Tally.entries]

end Json

/-- A JSON listing of files: the list of the tokens of a single file, or a list of files. Without
files there is an empty line. -/
def ListsAsJson (text : String) : List ScannedFile → Prop
  | [] => text = "\n"
  | [file] => ∃ items, (Json.array items).WrittenAs text ∧
      List.Forall₂ Json.Describes items file.tokens
  | files => ∃ items, (Json.array items).WrittenAs text ∧ List.Forall₂ Json.ListsFile items files

/-- The counts of files in JSON: those of a single file, or a list of those of each file. -/
def CountsAsJson (text : String) : List ScannedFile → Prop
  | [file] => ∃ item : Json, item.WrittenAs text ∧ item.Counts file.tally
  | files => ∃ items, (Json.array items).WrittenAs text ∧
      List.Forall₂ (fun item file => Json.Counts item (ScannedFile.tally file)) items files

theorem listsAsJson_tokensJsonText (files : List ScannedFile) :
    ListsAsJson (tokensJsonText (decide (files.length > 1)) files ++ "\n") files := by
  match files with
  | [] => rfl
  | [file] => exact ⟨_, Json.writtenAs_pretty _, Json.forall₂_describes file.tokens⟩
  | first :: second :: files =>
    refine ⟨_, Json.writtenAs_pretty _, List.forall₂_map_left_iff.mpr (List.forall₂_same.mpr ?_)⟩
    intro file _
    exact ⟨rfl, rfl, _, rfl, Json.forall₂_describes file.tokens⟩

theorem countsAsJson_tallyJsonText (files : List ScannedFile) :
    CountsAsJson (tallyJsonText (files.map ScannedFile.tally)) files := by
  have hitems : ∀ files : List ScannedFile, List.Forall₂
      (fun item file => Json.Counts item (ScannedFile.tally file))
      ((files.map ScannedFile.tally).map Tally.toJson) files := by
    intro files
    rw [List.map_map]
    exact List.forall₂_map_left_iff.mpr
      (List.forall₂_same.mpr fun file _ => Json.counts_toJson file.tally)
  match files with
  | [file] => exact ⟨_, Json.writtenAs_pretty _, Json.counts_toJson file.tally⟩
  | [] => exact ⟨_, Json.writtenAs_pretty _, hitems []⟩
  | first :: second :: files =>
    exact ⟨_, Json.writtenAs_pretty _, hitems (first :: second :: files)⟩

end Lexeme
