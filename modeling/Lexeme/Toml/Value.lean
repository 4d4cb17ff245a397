/-!
# TOML values

The values of a TOML document. A table keeps its keys in the order in which they were written.
Numbers with a fraction and dates keep their spelling.
-/

namespace Lexeme.Toml

/-- A value of a TOML document. -/
inductive Value where
  | string (s : String)
  | integer (n : Int)
  | float (spelling : String)
  | boolean (b : Bool)
  | date (spelling : String)
  | array (items : List Value)
  | table (fields : List (String × Value))
deriving Repr, Inhabited

namespace Value

/-- The value under a key of a table. -/
def lookup (key : String) (fields : List (String × Value)) : Option Value :=
  (fields.find? (·.1 == key)).map Prod.snd

/-- A table or an array without any items. -/
def isEmpty : Value → Bool
  | array [] | table [] => true
  | _ => false

end Value

end Lexeme.Toml
