/-
This file proves that the record of an evaluation is the list of its events by plain recursion.
As with the value, it does not show from outside that chains are worked off in a loop and that
parentheses are stripped: whatever carrying out an event does, an operation carries out what its
left operand does, then what its right operand does, and then itself. The record is complete, too:
a tree that has a value has one for each event, and one that fails does so by its last event, and
by no other.
-/

import IntExpr.Expr.Record
import IntExpr.Proofs.Evaluation
import IntExpr.Proofs.Parts
import IntExpr.Proofs.Steps

namespace IntExpr

/-- A recorded step that has ended goes on from its record if it has a value. -/
theorem Recorded.bind_of_ended {step : Recorded Int} {others : Int → Recorded Int}
    {outcome : Except EvaluationError Int} {before record : List Event} :
    step before = ended outcome record → (step >>= others) before =
      match outcome with
      | .ok value => others value record
      | .error cause => .error cause record := by
  intro ran
  cases outcome with
  | ok value => exact bind_of_ok ran
  | error cause => exact bind_of_error ran

namespace Expr

/-! ### Parts of an evaluation by events -/

section

variable {m : Type → Type} [Monad m] (carryOut : Event → m Int)

@[simp] theorem evaluateBy_literal (value : Int) (span : Option Span) :
    (literal value span).evaluateBy carryOut = pure value := by
  rw [evaluateBy]

@[simp] theorem evaluateBy_identifier (name : String) (span : Option Span) :
    (identifier name span).evaluateBy carryOut =
      carryOut (.lookup name (span.map Span.start)) := by
  rw [evaluateBy]

@[simp] theorem evaluateBy_foreign (value : Foreign) :
    (foreign value).evaluateBy carryOut = carryOut (.foreign value) := by
  rw [evaluateBy]

@[simp] theorem evaluateBy_ungroup (expr : Expr) :
    expr.ungroup.evaluateBy carryOut = expr.evaluateBy carryOut := by
  cases expr with
  | group inner span => rw [ungroup, evaluateBy]
  | _ => rfl

@[simp] theorem evaluateBy_group (inner : Expr) (span : Option Span) :
    (group inner span).evaluateBy carryOut = inner.evaluateBy carryOut := by
  rw [evaluateBy, evaluateBy_ungroup]

/-- A conditional carries out its condition and then the branch that this selects. -/
@[simp] theorem evaluateBy_conditional (condition whenTrue whenFalse : Expr)
    (span : Option Span) :
    (conditional condition whenTrue whenFalse span).evaluateBy carryOut = (do
      let choice ← condition.evaluateBy carryOut
      if choice ≠ 0 then whenTrue.evaluateBy carryOut else whenFalse.evaluateBy carryOut) := by
  rw [evaluateBy, evaluateBy_ungroup, evaluateBy_ungroup, evaluateBy_ungroup]

variable [LawfulMonad m]

theorem followBy_cons (value : Int) (link : Link) (links : List Link) :
    followBy carryOut value (link :: links) =
      followBy carryOut value [link] >>= (followBy carryOut · links) := by
  simp only [followBy, bind_assoc, bind_pure]

/-- The first operand of a chain and its links carry out what the whole tree and the links behind
it carry out. -/
theorem evaluateBy_unchain (expr : Expr) (links : List Link) :
    ((expr.unchain links).1.evaluateBy carryOut >>= (followBy carryOut · (expr.unchain links).2)) =
      (expr.evaluateBy carryOut >>= (followBy carryOut · links)) := by
  induction expr generalizing links with
  | group inner span inductionHypothesis =>
    rw [unchain, inductionHypothesis, evaluateBy_group]
  | binary left op right span leftHypothesis _ =>
    rw [unchain, leftHypothesis, evaluateBy, leftHypothesis [⟨op, right⟩], bind_assoc]
    exact congrArg (left.evaluateBy carryOut >>= ·)
      (funext fun value => followBy_cons carryOut value ⟨op, right⟩ links)
  | _ => rfl

/-- An operation carries out its operands, the left one first, and then itself. -/
@[simp] theorem evaluateBy_binary (left : Expr) (op : Operator) (right : Expr)
    (span : Option Span) :
    (binary left op right span).evaluateBy carryOut = (do
      let first ← left.evaluateBy carryOut
      let second ← right.evaluateBy carryOut
      carryOut (.operation op first second right.place)) := by
  rw [evaluateBy, evaluateBy_unchain]
  simp [followBy]

end

/-- If an event is carried out by coming to its outcome, this is evaluation. -/
theorem evaluateBy_outcome (bindings : Option Bindings) (expr : Expr) :
    expr.evaluateBy (Event.outcome bindings) = expr.evaluate bindings := by
  induction expr with
  | literal value span =>
    rw [evaluateBy_literal, evaluate_literal]
    rfl
  | identifier | foreign => simp [Event.outcome]
  | group inner span inductionHypothesis => simp [inductionHypothesis]
  | binary left op right span leftHypothesis rightHypothesis =>
    simp [leftHypothesis, rightHypothesis, Event.outcome]
  | conditional condition whenTrue whenFalse span conditionHypothesis trueHypothesis
      falseHypothesis =>
    simp [conditionHypothesis, trueHypothesis, falseHypothesis]

/-! ### The record -/

/-- A recorded evaluation comes to the meaning of the tree and adds the events of the tree to the
record. -/
theorem evaluateBy_carryOut (bindings : Option Bindings) (expr : Expr) (before : List Event) :
    expr.evaluateBy (Event.carryOut bindings) before =
      Recorded.ended (expr.meaning bindings) (before ++ expr.events bindings) := by
  induction expr generalizing before with
  | literal value span =>
    rw [evaluateBy_literal, events, meaning, List.append_nil]
    rfl
  | identifier | foreign => simp [events, meaning, Event.carryOut, Event.outcome]
  | group inner span inductionHypothesis => simp [inductionHypothesis, events, meaning]
  | binary left op right span leftHypothesis rightHypothesis =>
    rw [evaluateBy_binary, events, meaning, Recorded.bind_of_ended (leftHypothesis before)]
    cases left.meaning bindings with
    | error cause => rw [List.append_nil]; rfl
    | ok first =>
      show (_ >>= _ : Recorded Int) (before ++ left.events bindings) = _
      rw [Recorded.bind_of_ended (rightHypothesis _)]
      cases right.meaning bindings with
      | error cause => simp [Recorded.ended]
      | ok second => simp [Recorded.ended, Event.carryOut, Event.outcome]
  | conditional condition whenTrue whenFalse span conditionHypothesis trueHypothesis
      falseHypothesis =>
    rw [evaluateBy_conditional, events, meaning,
      Recorded.bind_of_ended (conditionHypothesis before)]
    cases condition.meaning bindings with
    | error cause => rw [List.append_nil]; rfl
    | ok choice =>
      show (if choice ≠ 0 then _ else _ : Recorded Int) (before ++ condition.events bindings) = _
      by_cases isTrue : choice ≠ 0
      · simp only [if_pos isTrue, trueHypothesis, List.append_assoc]
      · simp only [if_neg isTrue, falseHypothesis, List.append_assoc]

theorem record_eq_events (bindings : Option Bindings) (expr : Expr) :
    expr.record bindings = expr.events bindings := by
  rw [record, evaluateBy_carryOut, List.nil_append]
  cases expr.meaning bindings <;> rfl

end Expr

end IntExpr
