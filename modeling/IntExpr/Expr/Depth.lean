/-
This file evaluates trees with a bound on how many evaluations may be under way at once. It is the
same evaluation otherwise: chains are worked off in a loop, parentheses are stripped, and of the
branches of a conditional only the selected one is evaluated; what carrying out an event does is a
parameter here, too. The file also counts how many evaluations of a tree can be under way at once,
and the conditions that make the count exceed the nesting of the tree: an operation that is a
condition is read as part of the conditional, but evaluated on its own.
-/

import IntExpr.Expr.Record

namespace IntExpr

/-- Why an evaluation of bounded depth has no result. -/
inductive Interruption where
  /-- The expression has no value. -/
  | failed (cause : EvaluationError)
  /-- One evaluation more would have been under way than there may be. -/
  | tooDeep
deriving DecidableEq, Inhabited

/-- What an event comes to, if it does not matter how many evaluations are under way. -/
def Event.attempt (bindings : Option Bindings) (event : Event) : Except Interruption Int :=
  (event.outcome bindings).mapError .failed

namespace Expr

/-! ### Bounded evaluation -/

/-- The value that the links of a chain lead to, with events carried out and operands evaluated in
some way. -/
def followWith (carryOut : Event → Except Interruption Int)
    (evaluateOperand : Expr → Except Interruption Int) (value : Int) :
    List Link → Except Interruption Int
  | [] => .ok value
  | link :: rest => do
    let operand ← evaluateOperand link.operand.ungroup
    let next ← carryOut (.operation link.op value operand link.operand.place)
    followWith carryOut evaluateOperand next rest

/-- The value of an expression, with events carried out in some way, if no more evaluations are
under way at once than there is room for, the one of the expression itself included. -/
def evaluateByWithin (carryOut : Event → Except Interruption Int) :
    Nat → Expr → Except Interruption Int
  | 0, _ => .error .tooDeep
  | room + 1, expr =>
    match expr with
    | literal value _ => .ok value
    | identifier name span => carryOut (.lookup name (span.map Span.start))
    | group inner _ => evaluateByWithin carryOut room inner.ungroup
    | binary left op right _ => do
      let chain := left.unchain [⟨op, right⟩]
      let value ← evaluateByWithin carryOut room chain.1
      followWith carryOut (evaluateByWithin carryOut room) value chain.2
    | conditional condition whenTrue whenFalse _ => do
      if (← evaluateByWithin carryOut room condition.ungroup) ≠ 0 then
        evaluateByWithin carryOut room whenTrue.ungroup
      else evaluateByWithin carryOut room whenFalse.ungroup
    | foreign value => carryOut (.foreign value)

/-- The value of an expression, if no more evaluations are under way at once than there is room
for, the one of the expression itself included. -/
def evaluateWithin (bindings : Option Bindings) (room : Nat) (expr : Expr) :
    Except Interruption Int :=
  evaluateByWithin (Event.attempt bindings) room expr

/-! ### Evaluations under way at once -/

mutual

/-- How many evaluations can be under way at once for an operand, whose parentheses are stripped
before it is evaluated. -/
def operandDepth : Expr → Nat
  | group inner _ => inner.operandDepth
  | binary left _ right _ => max left.chainDepth right.operandDepth + 1
  | conditional condition whenTrue whenFalse _ =>
    max condition.operandDepth (max whenTrue.operandDepth whenFalse.operandDepth) + 1
  | _ => 1

/-- How many evaluations can be under way at once for the first operand and the links of a
chain. -/
def chainDepth : Expr → Nat
  | group inner _ => inner.chainDepth
  | binary left _ right _ => max left.chainDepth right.operandDepth
  | conditional condition whenTrue whenFalse _ =>
    max condition.operandDepth (max whenTrue.operandDepth whenFalse.operandDepth) + 1
  | _ => 1

end

/-- How many evaluations of a tree can be under way at once. -/
def depth : Expr → Nat
  | group inner _ => inner.operandDepth + 1
  | expr => expr.operandDepth

/-- Whether an expression is an operation that no parentheses are around. -/
def isOperation : Expr → Bool
  | binary _ _ _ _ => true
  | _ => false

/-- The greatest number of conditionals, each inside the condition of the one before, whose
condition is an operation that no parentheses are around. -/
def bareConditions : Expr → Nat
  | group inner _ => inner.bareConditions
  | binary left _ right _ => max left.bareConditions right.bareConditions
  | conditional condition whenTrue whenFalse _ =>
    max (condition.bareConditions + condition.isOperation.toNat)
      (max whenTrue.bareConditions whenFalse.bareConditions)
  | _ => 0

end Expr

end IntExpr
