/-
This file gives the words of the expression language: the binary operators with the tiers they
bind in, the types of token, and tokens themselves. The value of a token is determined by its
type and its lexeme, so it is a function and not a field.
-/

import IntExpr.Decimal
import IntExpr.Location

namespace IntExpr

/-! ### Tiers and operators -/

/-- The binding tiers of the binary operators, tightest first. -/
inductive Tier where
  | multiplicative | additive | bitwise | shift | relational | logical
deriving DecidableEq, Inhabited

namespace Tier

/-- The name of a tier. -/
def name : Tier → String
  | multiplicative => "multiplicative"
  | additive => "additive"
  | bitwise => "bitwise"
  | shift => "shift"
  | relational => "relational"
  | logical => "logical"

/-- How tightly a tier binds; the greater number binds tighter. -/
def strength : Tier → Nat
  | multiplicative => 6
  | additive => 5
  | bitwise => 4
  | shift => 3
  | relational => 2
  | logical => 1

end Tier

/-- The binary operators. -/
inductive Operator where
  | plus | minus | times | divide | bitAnd | bitOr | shiftLeft | shiftRight
  | less | greater | equal | and | or
deriving DecidableEq, Inhabited

namespace Operator

/-- The tier in which an operator binds. -/
def tier : Operator → Tier
  | times | divide => .multiplicative
  | plus | minus => .additive
  | bitAnd | bitOr => .bitwise
  | shiftLeft | shiftRight => .shift
  | less | greater | equal => .relational
  | and | or => .logical

/-- How an operator is written. -/
def symbol : Operator → String
  | plus => "+"
  | minus => "-"
  | times => "*"
  | divide => "/"
  | bitAnd => "&"
  | bitOr => "|"
  | shiftLeft => "<<"
  | shiftRight => ">>"
  | less => "<"
  | greater => ">"
  | equal => "=="
  | and => "&&"
  | or => "||"

/-- The name under which reports list an operator. -/
def name : Operator → String
  | plus => "PLUS"
  | minus => "MINUS"
  | times => "MUL"
  | divide => "DIV"
  | bitAnd => "BITAND"
  | bitOr => "BITOR"
  | shiftLeft => "SHIFTLEFT"
  | shiftRight => "SHIFTRIGHT"
  | less => "LESS"
  | greater => "GREATER"
  | equal => "EQUAL"
  | and => "AND"
  | or => "OR"

/-- Every operator. -/
def all : List Operator :=
  [plus, minus, times, divide, bitAnd, bitOr, shiftLeft, shiftRight, less, greater, equal, and, or]

theorem mem_all (operator : Operator) : operator ∈ all := by
  cases operator <;> decide

end Operator

/-- The operators of a tier, by name in alphabetical order. -/
def Tier.operatorNames (tier : Tier) : List String :=
  ((Operator.all.filter (·.tier = tier)).map Operator.name).mergeSort fun first second =>
    decide (first ≤ second)

/-! ### Types of token -/

/-- What a token is. The two keywords are recognised but start no expression. -/
inductive TokenType where
  | endOfInput
  | integer
  | identifier
  | declare
  | print
  | operator (op : Operator)
  | question
  | colon
  | leftParen
  | rightParen
deriving DecidableEq, Inhabited

namespace TokenType

/-- The name under which reports list a type. -/
def name : TokenType → String
  | endOfInput => "EOF"
  | integer => "INTEGER"
  | identifier => "IDENT"
  | declare => "DECLARE"
  | print => "PRINT"
  | operator op => op.name
  | question => "QUESTIONMARK"
  | colon => "DOUBLECOLON"
  | leftParen => "LPAREN"
  | rightParen => "RPAREN"

/-- What a type looks like in a source text, in words a reader of a report understands. -/
def spelling : TokenType → String
  | endOfInput => "end of input"
  | integer => "integer literal"
  | identifier => "identifier"
  | declare => "'declare'"
  | print => "'print'"
  | operator op => "'" ++ op.symbol ++ "'"
  | question => "'?'"
  | colon => "':'"
  | leftParen => "'('"
  | rightParen => "')'"

/-- The two words that are no identifiers. -/
def isKeyword : TokenType → Bool
  | declare | print => true
  | _ => false

/-- The tier of a type that is a binary operator. -/
def tier? : TokenType → Option Tier
  | operator op => some op.tier
  | _ => none

/-- Every type. -/
def all : List TokenType :=
  [endOfInput, integer, identifier, declare, print] ++ Operator.all.map operator ++
    [question, colon, leftParen, rightParen]

/-- The type with a given name. -/
def ofName? (name : String) : Option TokenType :=
  all.find? (·.name = name)

end TokenType

/-! ### Tokens -/

/-- What a token stands for, beyond its type. -/
inductive TokenValue where
  | number (value : Nat)
  | name (name : String)
  | none
deriving DecidableEq, Inhabited

/-- A token of a source text: its type, the text it was written as, and where that starts. -/
structure Token where
  type : TokenType
  lexeme : String
  location : Location
deriving DecidableEq, Inhabited

namespace Token

/-- The value of a numeral. -/
def number (token : Token) : Nat := Decimal.value token.lexeme.toList

/-- A numeral stands for its decimal value and an identifier for its name; other tokens stand
for themselves. -/
def value (token : Token) : TokenValue :=
  match token.type with
  | .integer => .number token.number
  | .identifier => .name token.lexeme
  | _ => .none

/-- A token by type and lexeme. -/
def label (token : Token) : String :=
  token.type.name ++ "(" ++ Text.quoted token.lexeme ++ ")"

/-- A token by type, lexeme and, where it differs from the lexeme, value. -/
def text (token : Token) : String :=
  match token.value with
  | .number value =>
    token.type.name ++ "(" ++ Text.quoted token.lexeme ++ " -> " ++ Nat.repr value ++ ")"
  | _ => token.label

/-- A token with all of its parts, for a reader who debugs. -/
def detail (token : Token) : String :=
  let value := match token.value with
    | .number value => Nat.repr value
    | .name name => Text.quoted name
    | .none => "None"
  "Token(" ++ token.type.name ++ ", " ++ Text.quoted token.lexeme ++ ", " ++ value ++ ", " ++
    token.location.detail ++ ")"

end Token

end IntExpr
