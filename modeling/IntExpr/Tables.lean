/-
This file gives the calculation as tables drive it. Three tables are written separately: which
operators a tier has, from which the tier of an operator is found by turning the table around, how
tightly a tier binds, and what an operator does. Wherever something is looked up in a table, or an
operation is put together from an operator and a tier, or a value is evaluated that is no
expression, the program can fail inside, and what it does then is a parameter.
-/

import IntExpr.Calculation

namespace IntExpr

/-- What can go wrong inside the program that is no fault of a text. -/
inductive InternalFailure where
  /-- An operator has no tier. -/
  | noTier (type : TokenType)
  /-- A tier has no precedence. -/
  | noPrecedence (tier : Tier)
  /-- A number is no precedence. -/
  | notAPrecedence (number : Nat)
  /-- An operation was put together from an operator and a tier it does not belong to. -/
  | mismatch (cause : TierMismatch)
  /-- Nothing is known of what an operator does. -/
  | noFunction (type : TokenType)
  /-- A value was to be evaluated that is no expression. -/
  | noExpression (value : Foreign)
deriving DecidableEq, Inhabited

/-- What the program does when it fails inside, in the place of what it was about to find. -/
structure Crash where
  /-- In the place of the precedence of a right operand. -/
  precedence : InternalFailure → Parse Nat
  /-- In the place of an operation that is put together. -/
  operation : InternalFailure → Parse Expr
  /-- In the place of a value. -/
  value : InternalFailure → Except Interruption Int

namespace Tabled

/-! ### Tables -/

/-- The operators of each tier. -/
def tierOperators : List (Tier × List TokenType) :=
  [(.multiplicative, [.operator .times, .operator .divide]),
    (.additive, [.operator .plus, .operator .minus]),
    (.bitwise, [.operator .bitAnd, .operator .bitOr]),
    (.shift, [.operator .shiftLeft, .operator .shiftRight]),
    (.relational, [.operator .less, .operator .greater, .operator .equal]),
    (.logical, [.operator .and, .operator .or])]

/-- The tier of each operator. -/
def operatorTiers : List (TokenType × Tier) :=
  tierOperators.flatMap fun row => row.2.map (·, row.1)

/-- The precedences: zero is for what is no operator, and there is one for conditionals below the
tiers and one for single operands above them. -/
def precedences : List Nat := [0, 1, 2, 3, 4, 5, 6, 7, 8]

/-- How tightly each tier binds. -/
def tierPrecedences : List (Tier × Nat) :=
  [(.logical, 2), (.relational, 3), (.shift, 4), (.bitwise, 5), (.additive, 6),
    (.multiplicative, 7)]

/-- A quotient, if the divisor is not zero. -/
def divide (left right : Int) : Except Refusal Int :=
  if right = 0 then .error .zeroDivisor else .ok (Arithmetic.truncatingDivide left right)

/-- A shift to either side. -/
def shift (toRight : Bool) (value count : Int) : Except Refusal Int :=
  if count < 0 then .error (.negativeShift count)
  else if toRight then .ok (Arithmetic.shiftRight value count.toNat)
  else if value = 0 then .ok 0
  else if (Arithmetic.shiftLimit : Int) < count then .error (.shiftTooLarge count)
  else .ok (value * Nat.pow 2 count.toNat)

open Arithmetic in
/-- What each operator does. -/
def operatorFunctions : List (TokenType × (Int → Int → Except Refusal Int)) :=
  [(.operator .plus, fun left right => .ok (left + right)),
    (.operator .minus, fun left right => .ok (left - right)),
    (.operator .times, fun left right => .ok (left * right)),
    (.operator .divide, divide),
    (.operator .bitAnd, fun left right => .ok (Arithmetic.bitAnd left right)),
    (.operator .bitOr, fun left right => .ok (Arithmetic.bitOr left right)),
    (.operator .shiftLeft, shift false),
    (.operator .shiftRight, shift true),
    (.operator .less, fun left right => .ok (truth (left < right))),
    (.operator .greater, fun left right => .ok (truth (left > right))),
    (.operator .equal, fun left right => .ok (truth (left = right))),
    (.operator .and, fun left right => .ok (truth (left ≠ 0 && right ≠ 0))),
    (.operator .or, fun left right => .ok (truth (left ≠ 0 || right ≠ 0)))]

/-! ### Parsing -/

/-- How tightly a type of token binds; what is no operator does not bind at all. -/
def precedence (type : TokenType) : Nat :=
  match operatorTiers.lookup type with
  | some tier => (tierPrecedences.lookup tier).getD 0
  | none => 0

/-- A binary operation from the type of its operator and the tier it is meant to bind in. -/
def operation (left : Expr) (type : TokenType) (right : Expr) (tier : Tier)
    (span : Option Span) : Except TierMismatch Expr :=
  match type, tierOperators.lookup tier with
  | .operator op, some types =>
    if type ∈ types then .ok (.binary left op right span) else .error ⟨type, tier⟩
  | _, _ => .error ⟨type, tier⟩

/-- The precedence of the right operand of an operator, which is one more than its own. -/
def operandPrecedence (crash : Crash) (type : TokenType) : Parse Nat :=
  match operatorTiers.lookup type with
  | none => crash.precedence (.noTier type)
  | some tier =>
    match tierPrecedences.lookup tier with
    | none => crash.precedence (.noPrecedence tier)
    | some tight =>
      if tight + 1 ∈ precedences then return tight + 1
      else crash.precedence (.notAPrecedence (tight + 1))

/-- The operation of an operator, put together from its operands. -/
def combine (crash : Crash) (type : TokenType) (left right : Expr) (span : Option Span) :
    Parse Expr :=
  match operatorTiers.lookup type with
  | none => crash.operation (.noTier type)
  | some tier =>
    match operation left type right tier span with
    | .error cause => crash.operation (.mismatch cause)
    | .ok expr => return expr

/-- The operation that goes on behind an expression of a precedence with a token of a type, if it
binds tightly enough. -/
def operationAt (crash : Crash) (least : Nat) (type : TokenType) :
    Option (Operation Scanner Nat) :=
  if least ≤ precedence type then some ⟨operandPrecedence crash type, combine crash type⟩ else none

/-- The parser that looks up in the tables how tightly an operator binds. -/
def parser (crash : Crash) : Parser Scanner Nat where
  peek := Parse.peek
  take := Parse.take
  unread := Scanner.unread
  span first last := return Span.cover first.span last.span
  deeper step := step
  loosest := 1
  branch := 2
  operation := operationAt crash

/-- A whole text as an expression. -/
def parse (crash : Crash) (source : String) : Parse Expr := do
  modify (·.restart source)
  (parser crash).whole (parser crash).tooDeep nestingLimit

/-! ### Evaluation -/

/-- What an event comes to. The operator of an operation is looked up when both of its operands have
a value. -/
def carryOut (crash : Crash) (bindings : Option Bindings) : Event → Except Interruption Int
  | .lookup name place => (valueOf bindings name place).mapError .failed
  | .operation op first second place =>
    match operatorFunctions.lookup (.operator op) with
    | none => crash.value (.noFunction (.operator op))
    | some function =>
      (function first second).mapError fun refusal => .failed (.refused refusal place)
  | .foreign value => crash.value (.noExpression value)

/-- The value of a text under a list of bindings on a stack with room for so many evaluations. -/
def calculateTextWithin (crash : Crash) (room : Nat) (source : String)
    (symbols : List (String × Int)) : Except Failure Int :=
  match parse crash source (Scanner.start inputName "") with
  | .error cause _ => .error (.parse cause)
  | .ok expr _ =>
    (expr.evaluateByWithin (carryOut crash (some (Bindings.ofList symbols))) room).mapError
      Interruption.failure

end Tabled

end IntExpr
