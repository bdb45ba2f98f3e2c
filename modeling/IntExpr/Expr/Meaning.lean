/-
This file gives the meaning of trees by plain recursion: the value of a node from the values of
its children, the left operand before the right one, and of a conditional only the branch that
its condition selects. It also lists the names that are looked up on the way.
-/

import IntExpr.Evaluation

namespace IntExpr.Expr

/-- The meaning of a tree under the values that a table gives to names. -/
def meaning (bindings : Option Bindings) : Expr → Except EvaluationError Int
  | literal value _ => .ok value
  | identifier name span => valueOf bindings name (span.map Span.start)
  | group inner _ => inner.meaning bindings
  | binary left op right _ =>
    match left.meaning bindings with
    | .error cause => .error cause
    | .ok first =>
      match right.meaning bindings with
      | .error cause => .error cause
      | .ok second => operate op first second right.place
  | conditional condition whenTrue whenFalse _ =>
    match condition.meaning bindings with
    | .error cause => .error cause
    | .ok choice =>
      if choice ≠ 0 then whenTrue.meaning bindings else whenFalse.meaning bindings
  | foreign value => .error (.notAnExpression value)

/-- The names that are looked up for the meaning of a tree, in order, up to the first failure. -/
def lookups (bindings : Option Bindings) : Expr → List String
  | literal _ _ | foreign _ => []
  | identifier name _ => [name]
  | group inner _ => inner.lookups bindings
  | binary left _ right _ =>
    left.lookups bindings ++
      match left.meaning bindings with
      | .error _ => []
      | .ok _ => right.lookups bindings
  | conditional condition whenTrue whenFalse _ =>
    condition.lookups bindings ++
      match condition.meaning bindings with
      | .error _ => []
      | .ok choice =>
        if choice ≠ 0 then whenTrue.lookups bindings else whenFalse.lookups bindings

end IntExpr.Expr
