import Lexeme.Text.Decimal

/-!
# JSON text

Values with natural numbers, and their two written forms: compact, and indented by two spaces with
one item a line. Fields keep the order in which they are given.

## Main definitions

* `Json`: the values.
* `Json.quote`: a text as a JSON string.
* `Json.compact`, `Json.pretty`: the written forms.
-/

namespace Lexeme

open Text

/-- JSON values, as far as the listings need them. -/
inductive Json where
  | number (n : Nat)
  | string (s : String)
  | array (items : List Json)
  | object (fields : List (String × Json))
deriving Repr, Inhabited

namespace Json

/-- One character inside a JSON string: only quotes, backslashes and controls are escaped. -/
def escape (c : Char) : String :=
  if c = '"' then "\\\""
  else if c = '\\' then "\\\\"
  else if c = '\x08' then "\\b"
  else if c = '\t' then "\\t"
  else if c = '\n' then "\\n"
  else if c = '\x0c' then "\\f"
  else if c = '\r' then "\\r"
  else if c.toNat < 0x20 then "\\u" ++ padLeft 4 '0' (hexadecimal c.toNat)
  else String.singleton c

/-- The text as a JSON string. -/
def quote (text : String) : String := "\"" ++ String.join (text.toList.map escape) ++ "\""

mutual

/-- The form without any blanks. -/
def compact : Json → String
  | number n => decimal n
  | string s => quote s
  | array items => "[" ++ ",".intercalate (compactItems items) ++ "]"
  | object fields => "\x7b" ++ ",".intercalate (compactFields fields) ++ "\x7d"

def compactItems : List Json → List String
  | [] => []
  | item :: items => compact item :: compactItems items

def compactFields : List (String × Json) → List String
  | [] => []
  | (key, value) :: fields => (quote key ++ ":" ++ compact value) :: compactFields fields

end

/-- The white space at the start of a line. -/
def indentation (depth : Nat) : String := repeated (2 * depth) ' '

/-- Items between brackets, one a line; brackets without items stay together. -/
def block (left right : String) (depth : Nat) (items : List String) : String :=
  if items.isEmpty then left ++ right
  else
    left ++ "\n" ++ ",\n".intercalate (items.map (indentation (depth + 1) ++ ·)) ++ "\n" ++
      indentation depth ++ right

mutual

/-- The indented form of a value that starts at `depth`. -/
def prettyAt (depth : Nat) : Json → String
  | number n => decimal n
  | string s => quote s
  | array items => block "[" "]" depth (prettyItems (depth + 1) items)
  | object fields => block "\x7b" "\x7d" depth (prettyFields (depth + 1) fields)

def prettyItems (depth : Nat) : List Json → List String
  | [] => []
  | item :: items => prettyAt depth item :: prettyItems depth items

def prettyFields (depth : Nat) : List (String × Json) → List String
  | [] => []
  | (key, value) :: fields =>
    (quote key ++ ": " ++ prettyAt depth value) :: prettyFields depth fields

end

/-- The indented form, without a final line feed. -/
def pretty (value : Json) : String := prettyAt 0 value

end Json

end Lexeme
