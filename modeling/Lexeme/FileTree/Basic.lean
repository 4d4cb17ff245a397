import Lexeme.FileTree.Path

/-!
# File trees

Directories and regular files under one root, and the operations on them that the program uses.
There are no links and no permissions. A path is followed step by step: every step but the last has
to lead through a directory that exists. Names and paths have a limited length, and no path holds a
null character.

## Main definitions

* `FileTree`: the tree, seen through `FileTree.get?`.
* `Disk`: a tree with a working directory, from which relative paths start.
* `Disk.stat`, `Disk.readText`: looking at a path.
* `Disk.makeDirectories`, `Disk.write`: the changes.
-/

namespace Lexeme

/-- Why an operation on the tree failed. -/
inductive IoFault where
  | notFound
  | alreadyExists
  | notDirectory
  | isDirectory
  | nameTooLong
  | nullInPath
  | notUtf8
deriving DecidableEq, Repr

namespace IoFault

def message : IoFault → String
  | notFound => "No such file or directory (os error 2)"
  | alreadyExists => "File exists (os error 17)"
  | notDirectory => "Not a directory (os error 20)"
  | isDirectory => "Is a directory (os error 21)"
  | nameTooLong => "File name too long (os error 36)"
  | nullInPath => "file name contained an unexpected NUL byte"
  | notUtf8 => "stream did not contain valid UTF-8"

end IoFault

/-- What stands at a place of a tree. -/
inductive Entry where
  | file (content : ByteArray)
  | directory

instance : DecidableEq Entry
  | .file a, .file b => decidable_of_iff (a.data = b.data) (by simp [ByteArray.ext_iff])
  | .directory, .directory => isTrue rfl
  | .file _, .directory => isFalse nofun
  | .directory, .file _ => isFalse nofun

/-- A place in a tree: the names that lead to it from the root. -/
abbrev Location := List String

/-- The entries of a tree; of two entries at one place the first counts. The root is always a
directory. -/
structure FileTree where
  entries : List (Location × Entry)
deriving DecidableEq

namespace FileTree

/-- Only the root. -/
def empty : FileTree := ⟨[]⟩

/-- What stands at a place. -/
def get? (t : FileTree) (place : Location) : Option Entry :=
  if place = [] then some .directory else t.entries.lookup place

/-- Puts an entry at a place, instead of what stood there. -/
def insert (t : FileTree) (place : Location) (e : Entry) : FileTree := ⟨(place, e) :: t.entries⟩

theorem get?_root (t : FileTree) : t.get? [] = some .directory := rfl

theorem get?_insert (t : FileTree) (place other : Location) (e : Entry) (h : place ≠ []) :
    (t.insert place e).get? other = if other = place then some e else t.get? other := by
  unfold get? insert
  by_cases ho : other = place
  · subst ho
    simp [h]
  · have hb : (other == place) = false := by simpa using ho
    simp [ho, hb, List.lookup_cons]

/-- Refuses a name of more than 255 bytes. -/
def checkName (name : String) : Except IoFault Unit :=
  if 255 < name.utf8ByteSize then .error .nameTooLong else .ok ()

/-- Follows `pieces` from the place `base`. The place reached need not exist, but everything on the
way to it is a directory. -/
def walk (t : FileTree) (base : Location) : List String → Except IoFault Location
  | [] => .ok base
  | piece :: pieces =>
    match t.get? base with
    | none => .error .notFound
    | some (.file _) => .error .notDirectory
    | some .directory =>
      if Path.stays piece then t.walk base pieces
      else if piece = ".." then t.walk base.dropLast pieces
      else
        match checkName piece with
        | .error fault => .error fault
        | .ok () => t.walk (base ++ [piece]) pieces

/-- Follows `pieces` to a directory. -/
def walkToDirectory (t : FileTree) (base : Location) (pieces : List String) :
    Except IoFault Location := do
  let place ← t.walk base pieces
  match t.get? place with
  | none => .error .notFound
  | some (.file _) => .error .notDirectory
  | some .directory => .ok place

/-- The entry that `pieces` lead to. -/
def stat (t : FileTree) (base : Location) (pieces : List String) : Except IoFault Entry := do
  let place ← t.walk base pieces
  match t.get? place with
  | none => .error .notFound
  | some e => .ok e

/-- The place of the last of `steps` inside the directory that the others lead to; nothing if the
steps end at a directory in any case. -/
def lastPlace (t : FileTree) (base : Location) (steps : List String) :
    Except IoFault (Option Location) :=
  match steps.getLast? with
  | none => .ok none
  | some last => do
    let parent ← t.walkToDirectory base steps.dropLast
    checkName last
    return if last = ".." then none else some (parent ++ [last])

/-- Makes one directory, inside one that exists. -/
def makeDirectory (t : FileTree) (base : Location) (steps : List String) :
    Except IoFault FileTree := do
  match ← t.lastPlace base steps with
  | none => .error .alreadyExists
  | some place =>
    if (t.get? place).isSome then .error .alreadyExists else .ok (t.insert place .directory)

/-- Whether `steps` lead to a directory that exists. -/
def isDirectory (t : FileTree) (base : Location) (steps : List String) : Bool :=
  match t.stat base steps with
  | .ok .directory => true
  | _ => false

/-- The tree after a directory was made, or a failure to make it that is forgiven if the directory
exists. -/
def settle (t : FileTree) (base : Location) (steps : List String) :
    Except IoFault FileTree → FileTree × Except IoFault Unit
  | .ok made => (made, .ok ())
  | .error fault => (t, if t.isDirectory base steps then .ok () else .error fault)

/-- Makes the directory that `reversed` leads to, read from its last step on, with all that is
missing on the way. Something missing on the way makes the directory above come first; what was
made before a failure stays. -/
def makeDirectories (base : Location) :
    (reversed : List String) → FileTree → FileTree × Except IoFault Unit
  | [], t => (t, .ok ())
  | last :: above, t =>
    let steps := (last :: above).reverse
    match t.makeDirectory base steps with
    | .error .notFound =>
      match makeDirectories base above t with
      | (t, .error fault) => (t, .error fault)
      | (t, .ok ()) => t.settle base steps (t.makeDirectory base steps)
    | made => t.settle base steps made

/-- Creates a regular file or replaces its content. -/
def write (t : FileTree) (base : Location) (steps : List String) (content : ByteArray) :
    Except IoFault FileTree := do
  match ← t.lastPlace base steps with
  | none => .error .isDirectory
  | some place =>
    if t.get? place = some .directory then .error .isDirectory
    else .ok (t.insert place (.file content))

end FileTree

/-- A tree and the directory from which relative paths start. -/
structure Disk where
  tree : FileTree
  workingDirectory : Location
deriving DecidableEq

namespace Disk

/-- Where a path starts. -/
def origin (d : Disk) (path : String) : Location :=
  if Path.isAbsolute path then [] else d.workingDirectory

/-- Refuses what cannot be a path: texts with a null character and those of more than 4095 bytes. -/
def checkPath (path : String) : Except IoFault Unit :=
  if path.toList.contains '\x00' then .error .nullInPath
  else if 4095 < path.utf8ByteSize then .error .nameTooLong
  else .ok ()

/-- What stands at a path. The empty path leads nowhere. -/
def stat (d : Disk) (path : String) : Except IoFault Entry := do
  checkPath path
  if path = "" then .error .notFound else d.tree.stat (d.origin path) (Path.pieces path)

def pathExists (d : Disk) (path : String) : Bool := (d.stat path).isOk

def isFile (d : Disk) (path : String) : Bool :=
  match d.stat path with
  | .ok (.file _) => true
  | _ => false

def isDirectory (d : Disk) (path : String) : Bool :=
  match d.stat path with
  | .ok .directory => true
  | _ => false

/-- The text of a file. -/
def readText (d : Disk) (path : String) : Except IoFault String := do
  match ← d.stat path with
  | .directory => .error .isDirectory
  | .file content =>
    match String.fromUTF8? content with
    | some text => .ok text
    | none => .error .notUtf8

/-- Makes the directory `path` with all that is missing on the way. Pieces at the end of the path
that stay in place do not count for its length. -/
def makeDirectories (d : Disk) (path : String) : Disk × Except IoFault Unit :=
  match checkPath (Path.withoutTail path) with
  | .error fault => (d, .error fault)
  | .ok () =>
    let (tree, result) :=
      FileTree.makeDirectories (d.origin path) (Path.steps path).reverse d.tree
    ({ d with tree }, result)

/-- Creates the file `path` or replaces its content. -/
def write (d : Disk) (path text : String) : Except IoFault Disk := do
  checkPath path
  let tree ← d.tree.write (d.origin path) (Path.steps path) text.toUTF8
  return { d with tree }

end Disk

end Lexeme
