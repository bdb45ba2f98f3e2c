/-
This file evaluates trees. A chain of operations, which leans to the left, is taken apart into
its first operand and its links and worked off in a loop, so that evaluation nests no deeper for
a longer chain; parentheses around an operand are stripped before it is evaluated. Operands are
evaluated left before right, both operands of a logical operator included, and of the branches
of a conditional only the selected one is evaluated.
-/

import IntExpr.Arithmetic
import IntExpr.Bindings

namespace IntExpr

/-- Why an expression has no value. -/
inductive EvaluationError where
  /-- An operation was refused; its right operand starts at the place, if known. -/
  | refused (refusal : Refusal) (place : Option Location)
  /-- A name has no value. -/
  | unbound (failure : Unbound)
  /-- A value that is no expression stands in the place of one. -/
  | notAnExpression (value : Foreign)
deriving DecidableEq, Inhabited

/-- The value of a name, in a table or, where there is none, without any value to find. -/
def valueOf (bindings : Option Bindings) (name : String) (place : Option Location) :
    Except EvaluationError Int :=
  match bindings with
  | none => .error (.unbound ⟨name, place, []⟩)
  | some bindings =>
    match bindings.get name place with
    | .ok symbol => .ok symbol.value
    | .error failure => .error (.unbound failure)

/-- The value of an operation whose right operand starts at a given place. -/
def operate (op : Operator) (left right : Int) (place : Option Location) :
    Except EvaluationError Int :=
  match op.apply left right with
  | .ok value => .ok value
  | .error refusal => .error (.refused refusal place)

namespace Expr

/-! ### Chains -/

/-- An operation of a chain, to be applied to the value of all that stands to its left. -/
structure Link where
  op : Operator
  operand : Expr
deriving DecidableEq, Inhabited

/-- The expression a chain starts with, and its links from left to right. Links already taken
off its right end are passed along; parentheses around the left part do not end a chain. -/
def unchain : Expr → List Link → Expr × List Link
  | group inner _, links => inner.unchain links
  | binary left op right _, links => left.unchain (⟨op, right⟩ :: links)
  | head, links => (head, links)

/-- A bound on the work in a list of links. -/
def linksSize : List Link → Nat
  | [] => 0
  | link :: links => link.operand.size + 1 + linksSize links

theorem size_unchain_le (expr : Expr) (links : List Link) :
    (expr.unchain links).1.size + linksSize (expr.unchain links).2 ≤
      expr.size + linksSize links := by
  induction expr generalizing links with
  | group inner span inductionHypothesis =>
    have step := inductionHypothesis links
    simp only [unchain, size] at step ⊢
    omega
  | binary left op right span leftHypothesis rightHypothesis =>
    have step := leftHypothesis (⟨op, right⟩ :: links)
    simp only [unchain, size, linksSize] at step ⊢
    omega
  | _ => exact Nat.le_refl _

theorem linksSize_le_unchain (expr : Expr) (links : List Link) :
    linksSize links ≤ linksSize (expr.unchain links).2 := by
  induction expr generalizing links with
  | group inner span inductionHypothesis => exact inductionHypothesis links
  | binary left op right span leftHypothesis rightHypothesis =>
    have step := leftHypothesis (⟨op, right⟩ :: links)
    simp only [linksSize] at step
    simp only [unchain]
    omega
  | _ => exact Nat.le_refl _

/-! ### What evaluation goes on with is smaller -/

section

variable (left : Expr) (op : Operator) (right : Expr) (span : Option Span) (link : Link)
  (rest : List Link)

theorem size_head_lt :
    (left.unchain [⟨op, right⟩]).1.size < (binary left op right span).size := by
  have bound := left.size_unchain_le [⟨op, right⟩]
  have links := left.linksSize_le_unchain [⟨op, right⟩]
  simp only [size, linksSize] at *
  omega

theorem linksSize_lt :
    linksSize (left.unchain [⟨op, right⟩]).2 < (binary left op right span).size := by
  have bound := left.size_unchain_le [⟨op, right⟩]
  have start := (left.unchain [⟨op, right⟩]).1.size_pos
  simp only [size, linksSize] at *
  omega

theorem size_operand_lt : link.operand.ungroup.size < linksSize (link :: rest) := by
  have bound := link.operand.size_ungroup_le
  simp only [linksSize]
  omega

theorem linksSize_rest_lt : linksSize rest < linksSize (link :: rest) := by
  simp only [linksSize]
  omega

end

/-! ### Values -/

mutual

/-- The value of an expression, with the values that a table gives to names. -/
def evaluate (bindings : Option Bindings) (expr : Expr) : Except EvaluationError Int :=
  match expr with
  | literal value _ => .ok value
  | identifier name span => valueOf bindings name (span.map Span.start)
  | group inner _ => evaluate bindings inner.ungroup
  | binary left op right _ => do
    let chain := left.unchain [⟨op, right⟩]
    let value ← evaluate bindings chain.1
    follow bindings value chain.2
  | conditional condition whenTrue whenFalse _ => do
    if (← evaluate bindings condition.ungroup) ≠ 0 then evaluate bindings whenTrue.ungroup
    else evaluate bindings whenFalse.ungroup
  | foreign value => .error (.notAnExpression value)
termination_by expr.size
decreasing_by
  · exact size_ungroup_lt (by simp only [size]; omega)
  · exact size_head_lt left op right _
  · exact linksSize_lt left op right _
  all_goals exact size_ungroup_lt (by simp only [size]; omega)

/-- The value that the links of a chain lead to from the value of what stands before them. -/
def follow (bindings : Option Bindings) (value : Int) (links : List Link) :
    Except EvaluationError Int :=
  match links with
  | [] => .ok value
  | link :: rest => do
    let operand ← evaluate bindings link.operand.ungroup
    let next ← operate link.op value operand link.operand.place
    follow bindings next rest
termination_by linksSize links
decreasing_by
  · exact size_operand_lt link rest
  · exact linksSize_rest_lt link rest

end

end Expr

end IntExpr
