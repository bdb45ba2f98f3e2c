/-
This file evaluates trees and keeps a record of what is done on the way. All that can fail in an
evaluation is an event: a name is looked up, an operator is applied to two values, or a value is
come upon that is no expression. The evaluation is the same whatever carrying out an event does,
so it is given for any way of carrying them out; if each event is written down before it is
carried out, what comes of it is the record. Beside it stands the list of the events of a tree by
plain recursion, from left to right: branches that are not selected are left out, and the list
ends with the first event that fails.
-/

import IntExpr.Expr.Meaning

namespace IntExpr

/-! ### Events -/

/-- What evaluation does that can fail. -/
inductive Event where
  /-- A name at a place is looked up. -/
  | lookup (name : String) (place : Option Location)
  /-- An operator is applied to two values; the right operand starts at the place. -/
  | operation (op : Operator) (first second : Int) (place : Option Location)
  /-- A value is come upon that is no expression. -/
  | foreign (value : Foreign)
deriving DecidableEq, Inhabited

namespace Event

/-- What an event comes to. -/
def outcome (bindings : Option Bindings) : Event → Except EvaluationError Int
  | lookup name place => valueOf bindings name place
  | operation op first second place => operate op first second place
  | foreign value => .error (.notAnExpression value)

/-- The name that is looked up. -/
def name? : Event → Option String
  | lookup name _ => some name
  | _ => none

end Event

/-- An evaluation that is recorded: it may fail, and the record is there all the same. -/
abbrev Recorded := EStateM EvaluationError (List Event)

/-- What an evaluation comes to, with the record it leaves. -/
def Recorded.ended (outcome : Except EvaluationError Int) (record : List Event) :
    EStateM.Result EvaluationError (List Event) Int :=
  match outcome with
  | .ok value => .ok value record
  | .error cause => .error cause record

/-- An event is written down and carried out. -/
def Event.carryOut (bindings : Option Bindings) (event : Event) : Recorded Int := fun record =>
  Recorded.ended (event.outcome bindings) (record ++ [event])

namespace Expr

/-! ### Evaluation by events -/

mutual

/-- The value of an expression, with events carried out in some way. -/
def evaluateBy {m : Type → Type} [Monad m] (carryOut : Event → m Int) (expr : Expr) : m Int :=
  match expr with
  | literal value _ => pure value
  | identifier name span => carryOut (.lookup name (span.map Span.start))
  | group inner _ => evaluateBy carryOut inner.ungroup
  | binary left op right _ => do
    let chain := left.unchain [⟨op, right⟩]
    let value ← evaluateBy carryOut chain.1
    followBy carryOut value chain.2
  | conditional condition whenTrue whenFalse _ => do
    if (← evaluateBy carryOut condition.ungroup) ≠ 0 then evaluateBy carryOut whenTrue.ungroup
    else evaluateBy carryOut whenFalse.ungroup
  | foreign value => carryOut (.foreign value)
termination_by expr.size
decreasing_by
  · exact size_ungroup_lt (by simp only [size]; omega)
  · exact size_head_lt left op right _
  · exact linksSize_lt left op right _
  all_goals exact size_ungroup_lt (by simp only [size]; omega)

/-- The value that the links of a chain lead to from the value of what stands before them. -/
def followBy {m : Type → Type} [Monad m] (carryOut : Event → m Int) (value : Int)
    (links : List Link) : m Int :=
  match links with
  | [] => pure value
  | link :: rest => do
    let operand ← evaluateBy carryOut link.operand.ungroup
    let next ← carryOut (.operation link.op value operand link.operand.place)
    followBy carryOut next rest
termination_by linksSize links
decreasing_by
  · exact size_operand_lt link rest
  · exact linksSize_rest_lt link rest

end

/-- The events that have been carried out when an evaluation has ended, in order. -/
def record (bindings : Option Bindings) (expr : Expr) : List Event :=
  match expr.evaluateBy (Event.carryOut bindings) [] with
  | .ok _ events | .error _ events => events

/-- The names that have been looked up when an evaluation has ended, in order. -/
def lookedUp (bindings : Option Bindings) (expr : Expr) : List String :=
  (expr.record bindings).filterMap Event.name?

/-! ### Events by plain recursion -/

/-- The events of a tree, in order, up to the first that fails. -/
def events (bindings : Option Bindings) : Expr → List Event
  | literal _ _ => []
  | identifier name span => [.lookup name (span.map Span.start)]
  | group inner _ => inner.events bindings
  | binary left op right _ =>
    left.events bindings ++
      match left.meaning bindings with
      | .error _ => []
      | .ok first =>
        right.events bindings ++
          match right.meaning bindings with
          | .error _ => []
          | .ok second => [.operation op first second right.place]
  | conditional condition whenTrue whenFalse _ =>
    condition.events bindings ++
      match condition.meaning bindings with
      | .error _ => []
      | .ok choice =>
        if choice ≠ 0 then whenTrue.events bindings else whenFalse.events bindings
  | foreign value => [.foreign value]

/-- The names of a tree from left to right, without those in branches that are not selected. -/
def selectedNames (bindings : Option Bindings) : Expr → List String
  | literal _ _ | foreign _ => []
  | identifier name _ => [name]
  | group inner _ => inner.selectedNames bindings
  | binary left _ right _ => left.selectedNames bindings ++ right.selectedNames bindings
  | conditional condition whenTrue whenFalse _ =>
    condition.selectedNames bindings ++
      match condition.meaning bindings with
      | .error _ => []
      | .ok choice =>
        if choice ≠ 0 then whenTrue.selectedNames bindings else whenFalse.selectedNames bindings

end Expr

end IntExpr
