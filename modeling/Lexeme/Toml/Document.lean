import Lexeme.Toml.Statement

/-!
# TOML documents

The statements of a document build up one table. A head opens the table to which the following
assignments add. No key and no table may be defined twice: a head may only complete a table that so
far exists because a longer head passed through it, and a dotted key may only add to tables that
dotted keys have made.

## Main definitions

* `Node`: a table under construction.
* `Builder.add`: the effect of one statement.
* `parse?`: the table of a text.
-/

namespace Lexeme.Toml

/-- How a table came to be. -/
inductive Origin where
  /-- By a head of its own. -/
  | declared
  /-- On the way to a table with a longer head. -/
  | implied
  /-- By a dotted key. -/
  | dotted
deriving DecidableEq, Repr

/-- What a key holds while a document is read. -/
inductive Node where
  | value (v : Value)
  | table (origin : Origin) (fields : List (String × Node))
  | tables (elements : List (List (String × Node)))
deriving Inhabited

/-- The keys of a table under construction, in order. -/
abbrev Fields := List (String × Node)

namespace Fields

def get? (key : String) (fields : Fields) : Option Node :=
  (fields.find? (·.1 == key)).map Prod.snd

/-- Puts a node under a key, in the place of the key or at the end. -/
def set (key : String) (node : Node) (fields : Fields) : Fields :=
  if fields.any (·.1 == key) then
    fields.map fun (k, old) => if k == key then (k, node) else (k, old)
  else fields ++ [(key, node)]

end Fields

/-- Changes the table that `path` leads to, making the tables that are missing on the way. Of an
array of tables the last one counts. With `dotted`, the way may not lead through a table with a
head of its own, and new tables belong to dotted keys. -/
def modifyAt (dotted : Bool) (change : Origin → Fields → Option Fields) :
    (path : List String) → Origin → Fields → Option Fields
  | [], origin, fields => change origin fields
  | key :: path, _, fields =>
    match fields.get? key with
    | none => do
      let origin := if dotted then Origin.dotted else Origin.implied
      return fields.set key (.table origin (← modifyAt dotted change path origin []))
    | some (.value _) => none
    | some (.table origin inner) =>
      if dotted ∧ origin = .declared then none
      else do return fields.set key (.table origin (← modifyAt dotted change path origin inner))
    | some (.tables elements) => do
      let last ← modifyAt dotted change path .declared (elements.getLast?.getD [])
      return fields.set key (.tables (elements.dropLast ++ [last]))

/-- Puts a value under a new key. A table reached by a dotted key has to belong to dotted keys. -/
def assignIn (viaDots : Bool) (key : String) (v : Value) (origin : Origin) (fields : Fields) :
    Option Fields :=
  if viaDots ∧ origin ≠ .dotted ∨ (fields.get? key).isSome then none
  else some (fields.set key (.value v))

/-- Opens a table by its head. -/
def declareIn (key : String) (_ : Origin) (fields : Fields) : Option Fields :=
  match fields.get? key with
  | none => some (fields.set key (.table .declared []))
  | some (.table .implied inner) => some (fields.set key (.table .declared inner))
  | some _ => none

/-- Opens one more table of an array. -/
def extendIn (key : String) (_ : Origin) (fields : Fields) : Option Fields :=
  match fields.get? key with
  | none => some (fields.set key (.tables [[]]))
  | some (.tables elements) => some (fields.set key (.tables (elements ++ [[]])))
  | some _ => none

/-- The document so far, and the path of the table that is open. -/
structure Builder where
  root : Fields := []
  current : List String := []

namespace Builder

/-- The first key and the others, divided before the last key. -/
def splitLast (key : String) (keys : List String) : List String × String :=
  ((key :: keys).dropLast, (key :: keys).getLast (by simp))

/-- The effect of one statement. -/
def add (b : Builder) : Statement → Option Builder
  | .assign key keys v => do
    let (path, last) := splitLast key keys
    let change := modifyAt true (assignIn (!path.isEmpty) last v) path
    return { b with root := ← modifyAt false change b.current .declared b.root }
  | .table key keys => do
    let (path, last) := splitLast key keys
    return ⟨← modifyAt false (declareIn last) path .declared b.root, path ++ [last]⟩
  | .tableArray key keys => do
    let (path, last) := splitLast key keys
    return ⟨← modifyAt false (extendIn last) path .declared b.root, path ++ [last]⟩

end Builder

mutual

/-- The value of a finished node. -/
def Node.toValue : Node → Value
  | .value v => v
  | .table _ fields => .table (nodeValues fields)
  | .tables elements => .array (elementValues elements)

def nodeValues : List (String × Node) → List (String × Value)
  | [] => []
  | (key, node) :: fields => (key, node.toValue) :: nodeValues fields

def elementValues : List (List (String × Node)) → List Value
  | [] => []
  | fields :: elements => .table (nodeValues fields) :: elementValues elements

end

/-- The table that a text denotes, if it is a valid document. -/
def parse? (text : String) : Option (List (String × Value)) := do
  let b ← (← statements? text.toList).foldlM Builder.add {}
  return nodeValues b.root

end Lexeme.Toml
