/-
This file proves what a bound on the evaluations under way makes of an evaluation. It either
changes nothing or the evaluation breaks off for its depth, whatever carrying out an event does;
and with room for as many evaluations as a tree can have under way at once it changes nothing.
-/

import IntExpr.Expr.Depth
import IntExpr.Proofs.Record

namespace IntExpr

/-! ### Breaking off -/

/-- An evaluation within bounds breaks off for its depth or comes to what the other one comes
to. -/
def BreaksOffOrEquals (bounded whole : Except Interruption Int) : Prop :=
  bounded = .error .tooDeep ∨ bounded = whole

theorem BreaksOffOrEquals.bind {bounded whole : Except Interruption Int}
    {others wholeOthers : Int → Except Interruption Int} (first : BreaksOffOrEquals bounded whole)
    (second : ∀ value, BreaksOffOrEquals (others value) (wholeOthers value)) :
    BreaksOffOrEquals (bounded >>= others) (whole >>= wholeOthers) := by
  obtain rfl | rfl := first
  · exact .inl rfl
  · cases bounded with
    | error cause => exact .inr rfl
    | ok value => exact second value

namespace Expr

variable (carryOut : Event → Except Interruption Int)

theorem followWith_breaksOffOrEquals {evaluateOperand : Expr → Except Interruption Int}
    (operands : ∀ expr, BreaksOffOrEquals (evaluateOperand expr) (expr.evaluateBy carryOut))
    (value : Int) (links : List Link) :
    BreaksOffOrEquals (followWith carryOut evaluateOperand value links)
      (followBy carryOut value links) := by
  induction links generalizing value with
  | nil =>
    rw [followBy]
    exact .inr rfl
  | cons link rest inductionHypothesis =>
    rw [followBy]
    exact (operands _).bind fun operand =>
      BreaksOffOrEquals.bind (.inr rfl) fun next => inductionHypothesis next

/-- A bound on the evaluations under way changes nothing unless evaluation breaks off. -/
theorem evaluateByWithin_breaksOffOrEquals (room : Nat) (expr : Expr) :
    BreaksOffOrEquals (expr.evaluateByWithin carryOut room) (expr.evaluateBy carryOut) := by
  induction room generalizing expr with
  | zero => exact .inl rfl
  | succ room inductionHypothesis =>
    cases expr with
    | literal | identifier | foreign =>
      rw [evaluateBy]
      exact .inr rfl
    | group inner span =>
      rw [evaluateBy]
      exact inductionHypothesis _
    | binary left op right span =>
      rw [evaluateBy]
      exact (inductionHypothesis _).bind fun value =>
        followWith_breaksOffOrEquals carryOut inductionHypothesis value _
    | conditional condition whenTrue whenFalse span =>
      rw [evaluateBy]
      refine (inductionHypothesis _).bind fun choice => ?_
      by_cases isTrue : choice ≠ 0
      · simp only [if_pos isTrue]
        exact inductionHypothesis _
      · simp only [if_neg isTrue]
        exact inductionHypothesis _

/-! ### Enough room -/

/-- Evaluating an operand with some room comes to what evaluating it without bounds comes to. -/
def FitsAsOperand (room : Nat) (expr : Expr) : Prop :=
  expr.ungroup.evaluateByWithin carryOut room = expr.evaluateBy carryOut

/-- Working off a chain with some room comes to what its evaluation without bounds comes to. -/
def FitsInChain (room : Nat) (expr : Expr) : Prop :=
  ∀ links, ((expr.unchain links).1.evaluateByWithin carryOut room >>=
      (followWith carryOut (evaluateByWithin carryOut room) · (expr.unchain links).2)) =
    (expr.evaluateBy carryOut >>= (followWith carryOut (evaluateByWithin carryOut room) · links))

variable {carryOut} {room : Nat}

/-- A chain of one more link, if there is enough room for what it joins. -/
theorem FitsInChain.binary {left right : Expr} (leftFits : left.FitsInChain carryOut room)
    (rightFits : right.FitsAsOperand carryOut room) (op : Operator) (span : Option Span) :
    (binary left op right span).FitsInChain carryOut room := by
  intro links
  rw [unchain, leftFits, evaluateBy_binary, bind_assoc]
  refine congrArg (_ >>= ·) (funext fun value => ?_)
  rw [followWith, rightFits, bind_assoc]

/-- An operation, if there is enough room for its chain. -/
theorem FitsInChain.operation {left right : Expr} (leftFits : left.FitsInChain carryOut room)
    (rightFits : right.FitsAsOperand carryOut room) (op : Operator) (span : Option Span) :
    (Expr.binary left op right span).FitsAsOperand carryOut (room + 1) := by
  have chain := leftFits.binary rightFits op span []
  simp only [followWith] at chain
  exact chain.trans (bind_pure _)

theorem FitsAsOperand.conditional {condition whenTrue whenFalse : Expr}
    (conditionFits : condition.FitsAsOperand carryOut room)
    (trueFits : whenTrue.FitsAsOperand carryOut room)
    (falseFits : whenFalse.FitsAsOperand carryOut room) (span : Option Span) :
    (conditional condition whenTrue whenFalse span).FitsAsOperand carryOut (room + 1) := by
  rw [FitsAsOperand, evaluateBy_conditional, ← conditionFits, ← trueFits, ← falseFits]
  rfl

variable (carryOut)

/-- Where there is room for all evaluations that can be under way at once, the bound makes no
difference. -/
def FitsItsDepth (expr : Expr) : Prop :=
  (∀ room, expr.operandDepth ≤ room → expr.FitsAsOperand carryOut room) ∧
    ∀ room, expr.chainDepth ≤ room → expr.FitsInChain carryOut room

variable {carryOut}

/-- What is neither in parentheses nor an operation is a chain of its own. -/
theorem FitsItsDepth.ofAlone {expr : Expr} (noGroup : expr.ungroup = expr)
    (noLinks : ∀ links, expr.unchain links = (expr, links))
    (sameDepth : expr.chainDepth = expr.operandDepth)
    (fits : ∀ room, expr.operandDepth ≤ room + 1 → expr.FitsAsOperand carryOut (room + 1))
    (positive : 0 < expr.operandDepth) : expr.FitsItsDepth carryOut := by
  have asOperand : ∀ room, expr.operandDepth ≤ room → expr.FitsAsOperand carryOut room := by
    intro room enough
    obtain ⟨room, rfl⟩ := Nat.exists_eq_add_of_le' (Nat.lt_of_lt_of_le positive enough)
    exact fits room enough
  refine ⟨asOperand, fun room enough links => ?_⟩
  rw [noLinks, ← asOperand room (by rwa [← sameDepth]), noGroup]

variable (carryOut)

theorem fitsItsDepth (expr : Expr) : expr.FitsItsDepth carryOut := by
  induction expr with
  | literal | identifier | foreign =>
    refine .ofAlone rfl (fun _ => rfl) rfl (fun room _ => ?_) Nat.one_pos
    rw [FitsAsOperand, evaluateBy]
    rfl
  | group inner span inductionHypothesis =>
    simp only [FitsItsDepth, FitsAsOperand, FitsInChain, evaluateBy_group]
    exact inductionHypothesis
  | binary left op right span leftHypothesis rightHypothesis =>
    refine ⟨fun room enough => ?_, fun room enough => ?_⟩
    · obtain ⟨room, rfl⟩ := Nat.exists_eq_add_of_le' (Nat.le_of_add_left_le enough)
      obtain ⟨leftEnough, rightEnough⟩ := Nat.max_le.1 (Nat.le_of_succ_le_succ enough)
      exact (leftHypothesis.2 room leftEnough).operation (rightHypothesis.1 room rightEnough)
        op span
    · obtain ⟨leftEnough, rightEnough⟩ := Nat.max_le.1 enough
      exact (leftHypothesis.2 room leftEnough).binary (rightHypothesis.1 room rightEnough) op span
  | conditional condition whenTrue whenFalse span conditionHypothesis trueHypothesis
      falseHypothesis =>
    refine .ofAlone rfl (fun _ => rfl) rfl (fun room enough => ?_) (Nat.succ_pos _)
    obtain ⟨conditionEnough, branchesEnough⟩ := Nat.max_le.1 (Nat.le_of_succ_le_succ enough)
    obtain ⟨trueEnough, falseEnough⟩ := Nat.max_le.1 branchesEnough
    exact (conditionHypothesis.1 room conditionEnough).conditional
      (trueHypothesis.1 room trueEnough) (falseHypothesis.1 room falseEnough) span

/-- With room for the depth of a tree, bounded evaluation comes to what evaluation comes to. -/
theorem evaluateByWithin_eq {expr : Expr} (enough : expr.depth ≤ room) :
    expr.evaluateByWithin carryOut room = expr.evaluateBy carryOut := by
  cases expr with
  | group inner span =>
    obtain ⟨room, rfl⟩ := Nat.exists_eq_add_of_le' (Nat.le_of_add_left_le enough)
    rw [evaluateBy_group, ← (fitsItsDepth carryOut inner).1 room (Nat.le_of_succ_le_succ enough)]
    rfl
  | _ => exact (fitsItsDepth carryOut _).1 room enough

/-! ### Evaluation under a table -/

/-- Causes of failure that are changed in every event are changed in what evaluation comes to. -/
theorem evaluateBy_mapError {Cause Other : Type} (carryOut : Event → Except Cause Int)
    (change : Cause → Other) (expr : Expr) :
    expr.evaluateBy (fun event => (carryOut event).mapError change) =
      (expr.evaluateBy carryOut).mapError change := by
  induction expr with
  | literal value span =>
    rw [evaluateBy_literal, evaluateBy_literal]
    rfl
  | identifier | foreign => simp
  | group inner span inductionHypothesis => simp [inductionHypothesis]
  | binary left op right span leftHypothesis rightHypothesis =>
    simp [leftHypothesis, rightHypothesis]
  | conditional condition whenTrue whenFalse span conditionHypothesis trueHypothesis
      falseHypothesis =>
    simp [conditionHypothesis, trueHypothesis, falseHypothesis]

theorem evaluateBy_attempt (bindings : Option Bindings) (expr : Expr) :
    expr.evaluateBy (Event.attempt bindings) = (expr.evaluate bindings).mapError .failed := by
  rw [← evaluateBy_outcome]
  exact evaluateBy_mapError (Event.outcome bindings) Interruption.failed expr

theorem evaluateWithin_eq {expr : Expr} (bindings : Option Bindings) (enough : expr.depth ≤ room) :
    expr.evaluateWithin bindings room = (expr.evaluate bindings).mapError .failed :=
  (evaluateByWithin_eq _ enough).trans (evaluateBy_attempt bindings expr)

theorem evaluateWithin_breaksOffOrEquals (bindings : Option Bindings) (room : Nat) (expr : Expr) :
    BreaksOffOrEquals (expr.evaluateWithin bindings room)
      ((expr.evaluate bindings).mapError .failed) := by
  rw [← evaluateBy_attempt]
  exact evaluateByWithin_breaksOffOrEquals _ room expr

end Expr

end IntExpr
