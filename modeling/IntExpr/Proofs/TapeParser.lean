/-
This file is the parser as it reads a tape: the tokens lie there already, and a step sees no more
of the tape than what comes next. Each step is described by one equation for each token that it may
find.
-/

import IntExpr.Parser
import IntExpr.Proofs.Steps
import IntExpr.Proofs.Tape

namespace IntExpr

/-- A step of the parser on a tape. -/
abbrev TapeParse := EStateM ParseError Tape

namespace TapeParse

/-! ### The parser -/

/-- What comes next. -/
def peek : TapeParse Token := fun tape =>
  match tape.next with
  | .ok token => .ok token tape
  | .error cause => .error (.scan cause) tape

/-- What comes next, which is taken off the tape. -/
def take : TapeParse Token := do
  let token ← peek
  modify Tape.rest
  return token

/-- The parser that reads a tape. -/
def parser : Parser Tape Level where
  peek := peek
  take := take
  unread tape := tape.tokens.length
  span first last := return Span.cover first.span last.span
  deeper step := step
  loosest := .conditional
  branch := .atLeast .logical
  operation := Level.operation

/-- An expression of a level that may nest other expressions to a given depth, itself
included. -/
abbrev expression (depth : Nat) (level : Level) : TapeParse Expr :=
  parser.expression parser.tooDeep depth level

/-- What may follow the first operand of an expression: operators, with a bound that is large
enough, and the branches of a conditional. -/
def behindOperand (depth : Nat) (level : Level) (first : Expr) : TapeParse Expr := fun tape =>
  (parser.operators (expression depth) level (tape.tokens.length + 1) first >>=
    parser.suffix (expression depth (.atLeast .logical)) level) tape

theorem expression_succ (depth : Nat) (level : Level) :
    expression (depth + 1) level =
      parser.operand (expression depth .conditional) >>= behindOperand depth level :=
  rfl

/-- A whole tape as an expression. -/
def whole : TapeParse Expr := parser.whole parser.tooDeep nestingLimit

/-! ### Each step by what comes next -/

section

variable {tape : Tape} {token : Token} {cause : ScanError}

theorem peek_of_next (next : tape.next = .ok token) : parser.peek tape = .ok token tape := by
  show peek tape = _
  rw [peek, next]

theorem peek_of_fault (next : tape.next = .error cause) :
    parser.peek tape = .error (.scan cause) tape := by
  show peek tape = _
  rw [peek, next]

theorem take_of_next (next : tape.next = .ok token) : parser.take tape = .ok token tape.rest := by
  show (parser.peek >>= _) tape = _
  rw [bind_of_ok (peek_of_next next)]
  rfl

theorem expect_of_next {type : TokenType} (next : tape.next = .ok token)
    (fits : token.type = type) : parser.expect type tape = .ok token tape.rest := by
  rw [Parser.expect, bind_of_ok (peek_of_next next), if_pos fits, take_of_next next]

theorem expect_of_other {type : TokenType} (next : tape.next = .ok token)
    (refused : token.type ≠ type) :
    parser.expect type tape = .error (.grammar (.unexpected [type] token)) tape := by
  rw [Parser.expect, bind_of_ok (peek_of_next next), if_neg refused,
    bind_of_ok (peek_of_next next)]
  rfl

variable (inner : TapeParse Expr)

theorem operand_of_fault (next : tape.next = .error cause) :
    parser.operand inner tape = .error (.scan cause) tape := by
  rw [Parser.operand, bind_of_error (peek_of_fault next)]

theorem operand_of_integer (next : tape.next = .ok token) (type : token.type = .integer) :
    parser.operand inner tape =
      .ok (.literal token.number (some (.single token.location))) tape.rest := by
  rw [Parser.operand, bind_of_ok (peek_of_next next), type]
  show (parser.take >>= _) tape = _
  rw [bind_of_ok (take_of_next next)]
  rfl

theorem operand_of_identifier (next : tape.next = .ok token) (type : token.type = .identifier) :
    parser.operand inner tape =
      .ok (.identifier token.lexeme (some (.single token.location))) tape.rest := by
  rw [Parser.operand, bind_of_ok (peek_of_next next), type]
  show (parser.take >>= _) tape = _
  rw [bind_of_ok (take_of_next next)]
  rfl

theorem operand_of_leftParen (next : tape.next = .ok token) (type : token.type = .leftParen) :
    parser.operand inner tape =
      (do
        let expr ← inner
        let closing ← parser.expect .rightParen
        return Expr.group expr (some ⟨token.location, closing.location⟩) : TapeParse Expr)
        tape.rest := by
  rw [Parser.operand, bind_of_ok (peek_of_next next), type]
  show (parser.take >>= _) tape = _
  rw [bind_of_ok (take_of_next next)]

theorem operand_of_other (next : tape.next = .ok token) (refused : token.type ∉ operandStart) :
    parser.operand inner tape = .error (.grammar (.unexpected operandStart token)) tape := by
  rw [Parser.operand, bind_of_ok (peek_of_next next)]
  cases type : token.type with
  | integer | identifier | leftParen => exact absurd (by rw [type]; decide) refused
  | _ => rfl

variable (operand : Level → TapeParse Expr) {level : Level} (bound : Nat) {left : Expr}

theorem operators_of_fault (next : tape.next = .error cause) :
    parser.operators operand level (bound + 1) left tape = .error (.scan cause) tape := by
  rw [Parser.operators, bind_of_error (peek_of_fault next)]

theorem operators_of_operator {op : Operator} (next : tape.next = .ok token)
    (type : token.type = .operator op) (admitted : level.admits op.tier = true) :
    parser.operators operand level (bound + 1) left tape =
      (do
        let right ← operand op.tier.tighter
        parser.operators operand level bound
          (.binary left op right (Span.cover left.span right.span))) tape.rest := by
  have found : parser.operation level token.type = some op.operation := by
    rw [type]
    exact Level.operation_of_admits admitted
  rw [Parser.operators, bind_of_ok (peek_of_next next), found]
  show (parser.take >>= _) tape = _
  rw [bind_of_ok (take_of_next next)]
  rfl

theorem operators_of_stop (next : tape.next = .ok token)
    (stop : ∀ op, token.type = .operator op → level.admits op.tier = false) :
    parser.operators operand level (bound + 1) left tape = .ok left tape := by
  have found : parser.operation level token.type = none := Level.operation_of_stop stop
  rw [Parser.operators, bind_of_ok (peek_of_next next), found]
  rfl

variable (branch : TapeParse Expr) {expr : Expr}

theorem suffix_of_question (next : tape.next = .ok token) (type : token.type = .question) :
    parser.suffix branch .conditional expr tape =
      (do
        let whenTrue ← branch
        let _ ← parser.expect .colon
        let whenFalse ← branch
        return Expr.conditional expr whenTrue whenFalse (Span.cover expr.span whenFalse.span) :
        TapeParse Expr) tape.rest := by
  have loosest : Level.conditional = parser.loosest := rfl
  rw [Parser.suffix, if_pos loosest, bind_of_ok (peek_of_next next), if_pos type, Parser.branches,
    bind_of_ok (take_of_next next)]
  rfl

theorem suffix_of_other (next : tape.next = .ok token)
    (stop : level = .conditional → token.type ≠ .question) :
    parser.suffix branch level expr tape = .ok expr tape := by
  rw [Parser.suffix]
  by_cases loose : level = parser.loosest
  · rw [if_pos loose, bind_of_ok (peek_of_next next), if_neg (stop loose)]
    rfl
  · rw [if_neg loose]
    rfl

theorem expression_zero (next : tape.next = .ok token) :
    expression 0 level tape = .error (.grammar (.tooDeep token)) tape := by
  rw [expression, Parser.expression, Parser.tooDeep, bind_of_ok (peek_of_next next)]
  rfl

theorem expression_zero_of_fault (next : tape.next = .error cause) :
    expression 0 level tape = .error (.scan cause) tape := by
  rw [expression, Parser.expression, Parser.tooDeep, bind_of_error (peek_of_fault next)]

theorem whole_of_ok {after : Tape}
    (ran : expression nestingLimit .conditional tape = .ok expr after)
    (next : after.next = .ok token) :
    whole tape =
      if token.type = .endOfInput then .ok expr after
      else .error (.grammar (.trailing token)) after := by
  show (expression nestingLimit .conditional >>= _) tape = _
  rw [bind_of_ok ran, bind_of_ok (peek_of_next next)]
  by_cases isEnd : token.type = .endOfInput
  · rw [if_pos isEnd, if_pos isEnd]
    rfl
  · rw [if_neg isEnd, if_neg isEnd, bind_of_ok (peek_of_next next)]
    rfl

theorem whole_of_error {failure : ParseError} {after : Tape}
    (ran : expression nestingLimit .conditional tape = .error failure after) :
    whole tape = .error failure after :=
  bind_of_error ran

end

end TapeParse

end IntExpr
