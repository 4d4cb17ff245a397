import Lexeme.Text.Split

/-!
# Paths

A path is a text; its steps are divided by slashes. Empty steps and single dots stay where they
are, double dots go up.

## Main definitions

* `Path.pieces`: what stands between the slashes.
* `Path.steps`: the pieces that lead somewhere.
* `Path.withoutTail`: a path up to the last piece that leads somewhere.
* `Path.join`: a name inside a directory.
-/

namespace Lexeme

open Text

namespace Path

/-- What stands between the slashes. -/
def pieces (path : String) : List String := (splitAtChar '/' path.toList).map String.ofList

/-- Whether a piece stays in place. -/
def stays (piece : String) : Bool := piece == "" || piece == "."

/-- The pieces without those that stay in place. -/
def steps (path : String) : List String := (pieces path).filter fun piece => !stays piece

/-- The path without the pieces at its end that stay in place. -/
def withoutTail (path : String) : String :=
  "/".intercalate ((pieces path).reverse.dropWhile stays).reverse

def isAbsolute (path : String) : Bool := path.toList.head? == some '/'

/-- The path of `name` inside the directory `dir`. A slash is added unless there is one, or `dir`
is empty. An absolute name does not depend on the directory. -/
def join (dir name : String) : String :=
  if isAbsolute name then name
  else if dir = "" ∨ dir.toList.getLast? = some '/' then dir ++ name else dir ++ "/" ++ name

end Path

end Lexeme
