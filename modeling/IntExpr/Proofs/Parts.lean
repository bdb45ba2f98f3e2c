/-
This file gives the value of a tree by the values of its parts. Evaluation strips parentheses and
works chains off in a loop, but none of this shows from outside: an operation has the value of its
operator on the values of its two operands, the left one evaluated first, and a conditional the
value of the branch that its condition selects. Spans matter only for the places that failures
name, so a tree without spans has the same value, or fails for the same cause at no place.
-/

import IntExpr.Evaluation

namespace IntExpr

/-! ### Failures seen from outside -/

section

variable {First Second Cause Other : Type}

@[simp] theorem mapError_ok (change : Cause → Other) (result : First) :
    (Except.ok result : Except Cause First).mapError change = .ok result := rfl

@[simp] theorem mapError_error (change : Cause → Other) (cause : Cause) :
    (Except.error cause : Except Cause First).mapError change = .error (change cause) := rfl

@[simp] theorem mapError_bind (change : Cause → Other) (step : Except Cause First)
    (others : First → Except Cause Second) :
    (step >>= others).mapError change =
      (step.mapError change >>= fun result => (others result).mapError change) := by
  cases step <;> rfl

@[simp] theorem mapError_ite (change : Cause → Other) (condition : Prop) [Decidable condition]
    (first second : Except Cause First) :
    (if condition then first else second).mapError change =
      if condition then first.mapError change else second.mapError change := by
  split <;> rfl

end

/-- The cause of a failure without the place that it names. -/
def EvaluationError.withoutPlace : EvaluationError → EvaluationError
  | refused refusal _ => refused refusal none
  | unbound failure => unbound { failure with place := none }
  | notAnExpression value => notAnExpression value

@[simp] theorem mapError_operate (op : Operator) (left right : Int) (place : Option Location) :
    (operate op left right place).mapError EvaluationError.withoutPlace =
      operate op left right none := by
  unfold operate
  cases op.apply left right <;> rfl

@[simp] theorem mapError_valueOf (bindings : Option Bindings) (name : String)
    (place : Option Location) :
    (valueOf bindings name place).mapError EvaluationError.withoutPlace =
      valueOf bindings name none := by
  cases bindings with
  | none => rfl
  | some bindings =>
    simp only [valueOf, Bindings.get]
    cases bindings.lookup name <;> rfl

namespace Expr

/-! ### Parts -/

@[simp] theorem evaluate_literal (bindings : Option Bindings) (value : Int) (span : Option Span) :
    (literal value span).evaluate bindings = .ok value := by
  rw [evaluate]

@[simp] theorem evaluate_identifier (bindings : Option Bindings) (name : String)
    (span : Option Span) :
    (identifier name span).evaluate bindings = valueOf bindings name (span.map Span.start) := by
  rw [evaluate]

@[simp] theorem evaluate_foreign (bindings : Option Bindings) (value : Foreign) :
    (foreign value).evaluate bindings = .error (.notAnExpression value) := by
  rw [evaluate]

@[simp] theorem evaluate_ungroup (bindings : Option Bindings) (expr : Expr) :
    expr.ungroup.evaluate bindings = expr.evaluate bindings := by
  cases expr with
  | group inner span => rw [ungroup, evaluate]
  | _ => rfl

/-- Parentheses do not change a value. -/
@[simp] theorem evaluate_group (bindings : Option Bindings) (inner : Expr) (span : Option Span) :
    (group inner span).evaluate bindings = inner.evaluate bindings := by
  rw [evaluate, evaluate_ungroup]

theorem follow_cons_eq (bindings : Option Bindings) (value : Int) (link : Link)
    (links : List Link) :
    follow bindings value (link :: links) =
      follow bindings value [link] >>= (follow bindings · links) := by
  rw [follow, follow, evaluate_ungroup]
  cases link.operand.evaluate bindings with
  | error cause => rfl
  | ok operand =>
    show (operate link.op value operand link.operand.place >>= _) =
      (operate link.op value operand link.operand.place >>= _) >>= _
    cases operate link.op value operand link.operand.place with
    | error cause => rfl
    | ok next =>
      show follow bindings next links = follow bindings next [] >>= _
      rw [follow.eq_1]
      rfl

/-- The first operand of a chain and its links lead to what the whole tree and the links behind
it lead to. -/
theorem evaluate_unchain (bindings : Option Bindings) (expr : Expr) (links : List Link) :
    ((expr.unchain links).1.evaluate bindings >>= (follow bindings · (expr.unchain links).2)) =
      (expr.evaluate bindings >>= (follow bindings · links)) := by
  induction expr generalizing links with
  | group inner span inductionHypothesis =>
    rw [unchain, inductionHypothesis, evaluate_group]
  | binary left op right span leftHypothesis _ =>
    rw [unchain, leftHypothesis, evaluate, leftHypothesis [⟨op, right⟩], bind_assoc]
    exact congrArg (left.evaluate bindings >>= ·)
      (funext fun value => follow_cons_eq bindings value ⟨op, right⟩ links)
  | _ => rfl

/-- An operation has the value of its operator on the values of its operands, the left one
first. -/
@[simp] theorem evaluate_binary (bindings : Option Bindings) (left : Expr) (op : Operator)
    (right : Expr) (span : Option Span) :
    (binary left op right span).evaluate bindings = (do
      let first ← left.evaluate bindings
      let second ← right.evaluate bindings
      operate op first second right.place) := by
  rw [evaluate, evaluate_unchain]
  refine congrArg (left.evaluate bindings >>= ·) (funext fun first => ?_)
  rw [follow, evaluate_ungroup]
  refine congrArg (right.evaluate bindings >>= ·) (funext fun second => ?_)
  show (operate op first second right.place >>= _) = operate op first second right.place
  cases operate op first second right.place with
  | error cause => rfl
  | ok value => exact follow.eq_1 bindings value

/-- A conditional has the value of the branch that its condition selects. -/
@[simp] theorem evaluate_conditional (bindings : Option Bindings)
    (condition whenTrue whenFalse : Expr) (span : Option Span) :
    (conditional condition whenTrue whenFalse span).evaluate bindings = (do
      let choice ← condition.evaluate bindings
      if choice ≠ 0 then whenTrue.evaluate bindings else whenFalse.evaluate bindings) := by
  rw [evaluate, evaluate_ungroup, evaluate_ungroup, evaluate_ungroup]

/-! ### Spans -/

@[simp] theorem place_withoutSpans (expr : Expr) : expr.withoutSpans.place = none := by
  cases expr <;> rfl

/-- Without spans a tree has the same value, or fails for the same cause at no place. -/
@[simp] theorem evaluate_withoutSpans (bindings : Option Bindings) (expr : Expr) :
    expr.withoutSpans.evaluate bindings =
      (expr.evaluate bindings).mapError EvaluationError.withoutPlace := by
  induction expr with
  | literal value span => simp [withoutSpans]
  | identifier name span => simp [withoutSpans]
  | group inner span inductionHypothesis => simp [withoutSpans, inductionHypothesis]
  | binary left op right span leftHypothesis rightHypothesis =>
    simp [withoutSpans, leftHypothesis, rightHypothesis]
  | conditional condition whenTrue whenFalse span conditionHypothesis trueHypothesis
      falseHypothesis =>
    simp [withoutSpans, conditionHypothesis, trueHypothesis, falseHypothesis]
  | foreign value => simp [withoutSpans, EvaluationError.withoutPlace]

end Expr

end IntExpr
