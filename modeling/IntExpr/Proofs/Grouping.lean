/-
This file proves that parentheses and spans are transparent to evaluation. Evaluation meets the
parentheses of a tree at places of different kinds: around the whole, inside a chain, around the
right operand of a link, around a condition or a branch. Wherever they stand, a tree without them
has the same value or fails for the same cause, and only the place that a failure names can be
another one. So trees that differ in parentheses and spans alone come to the same.
-/

import IntExpr.Proofs.Composition

namespace IntExpr

namespace Expr

/-- The same tree without parentheses. -/
def withoutGroups : Expr → Expr
  | group inner _ => inner.withoutGroups
  | binary left op right span => binary left.withoutGroups op right.withoutGroups span
  | conditional condition whenTrue whenFalse span =>
    conditional condition.withoutGroups whenTrue.withoutGroups whenFalse.withoutGroups span
  | leaf => leaf

/-- Without parentheses a tree has the same value, or fails for the same cause, if at another
place. An operation names the place where its right operand starts, which may move. -/
theorem evaluate_withoutGroups (bindings : Option Bindings) (expr : Expr) :
    (expr.withoutGroups.evaluate bindings).mapError EvaluationError.withoutPlace =
      (expr.evaluate bindings).mapError EvaluationError.withoutPlace := by
  induction expr with
  | group inner span inductionHypothesis => simp [withoutGroups, inductionHypothesis]
  | binary left op right span leftHypothesis rightHypothesis =>
    simp [withoutGroups, leftHypothesis, rightHypothesis]
  | conditional condition whenTrue whenFalse span conditionHypothesis trueHypothesis
      falseHypothesis =>
    simp [withoutGroups, conditionHypothesis, trueHypothesis, falseHypothesis]
  | _ => rfl

/-- The tree that is left of an expression without parentheses and spans has its value, or fails
for the same cause at no place. -/
theorem evaluate_bare (bindings : Option Bindings) (expr : Expr) :
    expr.withoutGroups.withoutSpans.evaluate bindings =
      (expr.evaluate bindings).mapError EvaluationError.withoutPlace := by
  rw [evaluate_withoutSpans, evaluate_withoutGroups]

end Expr

/-- Two evaluations come to the same value, or fail for causes that are the same but for the place
that they name. What is reported of the causes is the same but for the place too: the kind of the
failure, its code, its message, the help and the suggestions. -/
inductive SameButPlace : Except EvaluationError Int → Except EvaluationError Int → Prop
  | value (value : Int) : SameButPlace (.ok value) (.ok value)
  | failure (first second : EvaluationError) (cause : first.withoutPlace = second.withoutPlace)
      (report : first.report.withoutPlace = second.report.withoutPlace) :
    SameButPlace (.error first) (.error second)

/-- Evaluations that are the same once places are taken away differ in places only. -/
theorem SameButPlace.ofMapError {first second : Except EvaluationError Int}
    (same : first.mapError EvaluationError.withoutPlace =
      second.mapError EvaluationError.withoutPlace) : SameButPlace first second := by
  cases first with
  | ok value =>
    cases second with
    | ok other =>
      cases same
      exact .value value
    | error cause => cases same
  | error cause =>
    cases second with
    | ok value => cases same
    | error other =>
      have sameCause : cause.withoutPlace = other.withoutPlace := Except.error.inj same
      refine .failure cause other sameCause ?_
      rw [← withoutPlace_report cause, sameCause, withoutPlace_report]

end IntExpr
