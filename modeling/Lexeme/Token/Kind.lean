/-!
# Kinds of tokens

The kinds fall into the end mark, keywords, names and literals, operators and delimiters. Their
order is the order in which they are listed here.

## Main definitions

* `Keyword`, `Operator`, `Delimiter`: the closed families, with their spellings.
* `Kind`: all kinds.
* `Kind.name`: the upper-case name shown in listings.
* `Kind.rank`: the place of a kind in the order of kinds.
-/

namespace Lexeme

/-- Words with a meaning of their own. -/
inductive Keyword where
  | class_
  | if_
  | while_
  | return_
  | void
  | int
  | string
  | bool
  | public_
  | private_
  | static
deriving DecidableEq, Repr

namespace Keyword

/-- All keywords, in their order. -/
def all : List Keyword :=
  [class_, if_, while_, return_, void, int, string, bool, public_, private_, static]

def name : Keyword → String
  | class_ => "CLASS"
  | if_ => "IF"
  | while_ => "WHILE"
  | return_ => "RETURN"
  | void => "VOID"
  | int => "INT"
  | string => "STRING"
  | bool => "BOOL"
  | public_ => "PUBLIC"
  | private_ => "PRIVATE"
  | static => "STATIC"

def spelling : Keyword → String
  | class_ => "class"
  | if_ => "if"
  | while_ => "while"
  | return_ => "return"
  | void => "void"
  | int => "int"
  | string => "string"
  | bool => "bool"
  | public_ => "public"
  | private_ => "private"
  | static => "static"

/-- The keyword that is spelled exactly like `word`. -/
def ofSpelling? (word : String) : Option Keyword := all.find? (·.spelling == word)

end Keyword

/-- Operators. The last two are reserved: scanning never yields them. -/
inductive Operator where
  | assign
  | plus
  | minus
  | multiply
  | divide
  | modulo
  | equals
  | notEquals
  | less
  | greater
  | lessEqual
  | greaterEqual
  | and
  | or
  | not
  | increment
  | decrement
deriving DecidableEq, Repr

namespace Operator

/-- All operators, in their order. -/
def all : List Operator :=
  [assign, plus, minus, multiply, divide, modulo, equals, notEquals, less, greater, lessEqual,
   greaterEqual, and, or, not, increment, decrement]

def name : Operator → String
  | assign => "ASSIGN"
  | plus => "PLUS"
  | minus => "MINUS"
  | multiply => "MULTIPLY"
  | divide => "DIVIDE"
  | modulo => "MODULO"
  | equals => "EQUALS"
  | notEquals => "NOT_EQUALS"
  | less => "LESS"
  | greater => "GREATER"
  | lessEqual => "LESS_EQUAL"
  | greaterEqual => "GREATER_EQUAL"
  | and => "AND"
  | or => "OR"
  | not => "NOT"
  | increment => "INCREMENT"
  | decrement => "DECREMENT"

end Operator

/-- Brackets and separators. -/
inductive Delimiter where
  | leftBrace
  | rightBrace
  | leftParen
  | rightParen
  | semicolon
  | comma
  | dot
deriving DecidableEq, Repr

namespace Delimiter

/-- All delimiters, in their order. -/
def all : List Delimiter := [leftBrace, rightBrace, leftParen, rightParen, semicolon, comma, dot]

def name : Delimiter → String
  | leftBrace => "LEFT_BRACE"
  | rightBrace => "RIGHT_BRACE"
  | leftParen => "LEFT_PAREN"
  | rightParen => "RIGHT_PAREN"
  | semicolon => "SEMICOLON"
  | comma => "COMMA"
  | dot => "DOT"

end Delimiter

/-- What a token is. -/
inductive Kind where
  /-- The end of the input. -/
  | eof
  | keyword (k : Keyword)
  | identifier
  | number
  | stringLiteral
  | operator (o : Operator)
  | delimiter (d : Delimiter)
deriving DecidableEq, Repr

namespace Kind

/-- All kinds, in their order. -/
def all : List Kind :=
  eof :: Keyword.all.map keyword ++ [identifier, number, stringLiteral] ++
    Operator.all.map operator ++ Delimiter.all.map delimiter

/-- The name shown in listings. -/
def name : Kind → String
  | eof => "EOF"
  | keyword k => k.name
  | identifier => "IDENTIFIER"
  | number => "NUMBER"
  | stringLiteral => "STRING_LITERAL"
  | operator o => o.name
  | delimiter d => d.name

/-- The kind with a given name. -/
def ofName? (name : String) : Option Kind := all.find? (·.name == name)

/-- The place of a kind in the order of kinds. -/
def rank : Kind → Nat
  | eof => 0
  | keyword k => 1 + k.ctorIdx
  | identifier => 12
  | number => 13
  | stringLiteral => 14
  | operator o => 15 + o.ctorIdx
  | delimiter d => 32 + d.ctorIdx

/-- The kinds in ascending order; equal kinds stay. -/
def sort (kinds : List Kind) : List Kind := kinds.mergeSort fun a b => a.rank ≤ b.rank

def isKeyword : Kind → Bool
  | keyword _ => true
  | _ => false

def isOperator : Kind → Bool
  | operator _ => true
  | _ => false

def isDelimiter : Kind → Bool
  | delimiter _ => true
  | _ => false

/-- Numbers and string literals. -/
def isLiteral : Kind → Bool
  | number | stringLiteral => true
  | _ => false

/-- Words divided by underscores, run together with only their first letters in upper case.
`start` tells whether a word starts here. -/
def joinWords (start : Bool) : List Char → List Char
  | [] => []
  | c :: cs =>
    if c = '_' then joinWords true cs
    else (if start then c.toUpper else c.toLower) :: joinWords false cs

/-- The name in mixed case, without underscores. -/
def title (k : Kind) : String := String.ofList (joinWords true k.name.toList)

end Kind

end Lexeme
