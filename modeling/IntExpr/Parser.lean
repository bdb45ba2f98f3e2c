/-
This file parses expressions. An expression of some level is an operand followed by operators
that bind at least as tightly as the level, each with a right operand one level tighter than
the operator; this makes every tier associate to the left. Only at the loosest level may one
conditional follow, and its branches are of the logical level. Tokens are read one at a time and
none before it is needed, so the first fault of a text is the one that is met first.

Parsing is given once, for any way to get at the tokens, to count how deep expressions nest, and to
find out about operators; a text is parsed by a parser that reads from a scanner.
-/

import IntExpr.Expr
import IntExpr.Scanner

namespace IntExpr

/-! ### Levels -/

/-- How tightly the operators of an expression have to bind. -/
inductive Level where
  /-- Any operator, and a conditional. -/
  | conditional
  /-- Operators of a tier or a tighter one. -/
  | atLeast (tier : Tier)
  /-- No operator. -/
  | primary
deriving DecidableEq, Inhabited

/-- Whether operators of a tier may stand in an expression of a level. -/
def Level.admits : Level → Tier → Bool
  | conditional, _ => true
  | atLeast least, tier => least.strength ≤ tier.strength
  | primary, _ => false

/-- The level of the right operand of an operator. -/
def Tier.tighter : Tier → Level
  | multiplicative => .primary
  | additive => .atLeast .multiplicative
  | bitwise => .atLeast .additive
  | shift => .atLeast .bitwise
  | relational => .atLeast .shift
  | logical => .atLeast .relational

/-! ### Failures -/

/-- Why a row of tokens is no expression. -/
inductive GrammarError where
  /-- One of some types was expected, in the order in which they are reported. -/
  | unexpected (expected : List TokenType) (found : Token)
  /-- An expression was complete, but the input went on. -/
  | trailing (found : Token)
  /-- One level more than the limit would have been needed at a token. -/
  | tooDeep (found : Token)
deriving DecidableEq, Inhabited

/-- Why a text is no expression. -/
inductive ParseError where
  | scan (cause : ScanError)
  | grammar (cause : GrammarError)
deriving DecidableEq, Inhabited

/-! ### Parsers -/

/-- What a parser knows of an operation when it has come upon the operator. -/
structure Operation (State Grade : Type) where
  /-- The grade of the right operand. -/
  operandGrade : EStateM ParseError State Grade
  /-- The operation, put together from its operands and its span. -/
  combine : Expr → Expr → Option Span → EStateM ParseError State Expr

/-- What parsing rests on. The grade of an expression says how tightly its operators have to
bind. -/
structure Parser (State Grade : Type) where
  /-- The next token. -/
  peek : EStateM ParseError State Token
  /-- The next token, which is taken. -/
  take : EStateM ParseError State Token
  /-- A bound on the number of tokens left. -/
  unread : State → Nat
  /-- The span from the start of one expression to the end of another, which was read last. -/
  span : Expr → Expr → EStateM ParseError State (Option Span)
  /-- Reading an expression, as one level more. -/
  deeper : EStateM ParseError State Expr → EStateM ParseError State Expr
  /-- The grade of a whole expression. -/
  loosest : Grade
  /-- The grade of the branches of a conditional. -/
  branch : Grade
  /-- The operation that goes on behind an expression of a grade with a token of a type, if the
  token is an operator that binds tightly enough. -/
  operation : Grade → TokenType → Option (Operation State Grade)

/-- The types of token that an operand can start with. -/
def operandStart : List TokenType := [.leftParen, .integer, .identifier]

namespace Parser

variable {State Grade : Type} (parser : Parser State Grade)

/-- Give up at a fault. -/
def fault {Result : Type} (cause : GrammarError) : EStateM ParseError State Result :=
  throw (.grammar cause)

/-- The next token, which is taken if it is of a type and a fault if it is not. -/
def expect (type : TokenType) : EStateM ParseError State Token := do
  if (← parser.peek).type = type then parser.take
  else fault (.unexpected [type] (← parser.peek))

/-- A numeral, a name, or an expression in parentheses. -/
def operand (inner : EStateM ParseError State Expr) : EStateM ParseError State Expr := do
  let token ← parser.peek
  match token.type with
  | .integer =>
    let _ ← parser.take
    return .literal token.number (some (.single token.location))
  | .identifier =>
    let _ ← parser.take
    return .identifier token.lexeme (some (.single token.location))
  | .leftParen =>
    let _ ← parser.take
    let expr ← inner
    let closing ← parser.expect .rightParen
    return .group expr (some ⟨token.location, closing.location⟩)
  | _ => fault (.unexpected operandStart token)

/-- The operators that may follow an expression of a grade, each with its right operand. The
bound is on the number of tokens left. -/
def operators (operand : Grade → EStateM ParseError State Expr) (grade : Grade) :
    Nat → Expr → EStateM ParseError State Expr
  | 0, left => return left
  | bound + 1, left => do
    match parser.operation grade (← parser.peek).type with
    | none => return left
    | some operation =>
      let _ ← parser.take
      let right ← operand (← operation.operandGrade)
      let span ← parser.span left right
      operators operand grade bound (← operation.combine left right span)

/-- The rest of a conditional, whose question mark is the next token. -/
def branches (branch : EStateM ParseError State Expr) (condition : Expr) :
    EStateM ParseError State Expr := do
  let _ ← parser.take
  let whenTrue ← branch
  let _ ← parser.expect .colon
  let whenFalse ← branch
  return .conditional condition whenTrue whenFalse (← parser.span condition whenFalse)

/-- What may follow the operators of an expression of a grade: in a whole expression, the branches
of a conditional. -/
def suffix [DecidableEq Grade] (branch : EStateM ParseError State Expr) (grade : Grade)
    (expr : Expr) : EStateM ParseError State Expr := do
  if grade = parser.loosest then
    if (← parser.peek).type = .question then parser.branches branch expr else return expr
  else return expr

/-- An expression of a grade that may nest other expressions to a given depth, itself included;
what is done about deeper ones is a parameter. -/
def expression [DecidableEq Grade] (beyond : Grade → EStateM ParseError State Expr) :
    Nat → Grade → EStateM ParseError State Expr
  | 0, grade => beyond grade
  | depth + 1, grade => parser.deeper do
    let first ← parser.operand (expression beyond depth parser.loosest)
    let bound := parser.unread (← get) + 1
    let expr ← parser.operators (expression beyond depth) grade bound first
    parser.suffix (expression beyond depth parser.branch) grade expr

/-- One level too many, whatever expression was to come. -/
def tooDeep (_ : Grade) : EStateM ParseError State Expr := do
  fault (.tooDeep (← parser.peek))

/-- All that is left to read as one expression. -/
def whole [DecidableEq Grade] (beyond : Grade → EStateM ParseError State Expr) (depth : Nat) :
    EStateM ParseError State Expr := do
  let expr ← parser.expression beyond depth parser.loosest
  if (← parser.peek).type = .endOfInput then return expr
  else fault (.trailing (← parser.peek))

end Parser

/-- The operation of an operator. Its right operand is one level tighter. -/
def Operator.operation {State : Type} (op : Operator) : Operation State Level where
  operandGrade := return op.tier.tighter
  combine left right span := return .binary left op right span

namespace Level

variable {State : Type}

/-- The operation that goes on behind an expression of a level, if the operator binds tightly
enough. -/
def operation (level : Level) : TokenType → Option (Operation State Level)
  | .operator op => if level.admits op.tier then some op.operation else none
  | _ => none

variable {level : Level} {type : TokenType}

theorem operation_of_admits {op : Operator} (admitted : level.admits op.tier = true) :
    level.operation (.operator op) = some (op.operation : Operation State Level) :=
  if_pos admitted

theorem operation_of_stop (stop : ∀ op, type = .operator op → level.admits op.tier = false) :
    (level.operation type : Option (Operation State Level)) = none := by
  cases type with
  | operator op => exact if_neg (by rw [stop op rfl]; exact Bool.false_ne_true)
  | _ => rfl

theorem eq_of_mem_operation {operation : Operation State Level}
    (found : operation ∈ level.operation type) :
    ∃ op, type = .operator op ∧ level.admits op.tier = true ∧ operation = op.operation := by
  cases type with
  | operator op =>
    obtain ⟨admitted, same⟩ := Option.ite_none_right_eq_some.1 found
    exact ⟨op, rfl, admitted, (Option.some.inj same).symm⟩
  | _ => cases found

end Level

/-! ### Parsing from a scanner -/

/-- A step of the parser that reads from a scanner. -/
abbrev Parse := EStateM ParseError Scanner

namespace Parse

/-- A reading step as a step of the parser. -/
def ofScan {Result : Type} (step : Scan Result) : Parse Result := fun scanner =>
  match step scanner with
  | .ok result scanner => .ok result scanner
  | .error cause scanner => .error (.scan cause) scanner

/-- The next token. -/
def peek : Parse Token := ofScan Scanner.look

/-- The next token, which is taken. -/
def take : Parse Token := do
  let token ← peek
  ofScan Scanner.advance
  return token

/-- The parser that reads from a scanner and keeps nothing beside it. -/
def parser : Parser Scanner Level where
  peek := peek
  take := take
  unread := Scanner.unread
  span first last := return Span.cover first.span last.span
  deeper step := step
  loosest := .conditional
  branch := .atLeast .logical
  operation := Level.operation

end Parse

/-- How deep expressions may nest. -/
def nestingLimit : Nat := 256

/-- A whole text as an expression. -/
def parse (source : String) : Parse Expr := do
  modify (·.restart source)
  Parse.parser.whole Parse.parser.tooDeep nestingLimit

/-- The expression that a named text holds. -/
def parseText (filename source : String) : Except ParseError Expr :=
  match parse source (Scanner.start filename "") with
  | .ok expr _ => .ok expr
  | .error cause _ => .error cause

end IntExpr
