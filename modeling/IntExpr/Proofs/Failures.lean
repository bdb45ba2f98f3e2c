/-
This file says what the evaluation of a parsed tree can fail with. Every node of such a tree is an
expression and starts at the place of a token, so a failure names such a place. If an operation was
refused then evaluation got to it: its operands have the values that it was refused on.
-/

import IntExpr.Proofs.Parts
import IntExpr.Proofs.Reading
import Mathlib.Tactic.SplitIfs

namespace IntExpr

theorem bind_eq_error_iff {First Second Cause : Type} {step : Except Cause First}
    {others : First → Except Cause Second} {cause : Cause} :
    step >>= others = .error cause ↔
      step = .error cause ∨ ∃ result, step = .ok result ∧ others result = .error cause := by
  cases step with
  | error found => simp [bind, Except.bind]
  | ok result => simp [bind, Except.bind]

/-- An operation is refused in three cases: a division by zero, a shift by a negative count, and a
shift of a nonzero integer to the left by too large a count. -/
theorem refusal_cases {op : Operator} {first second : Int} {refusal : Refusal}
    (refuses : op.apply first second = .error refusal) :
    (op = .divide ∧ second = 0 ∧ refusal = .zeroDivisor) ∨
      ((op = .shiftLeft ∨ op = .shiftRight) ∧ second < 0 ∧ refusal = .negativeShift second) ∨
      op = .shiftLeft ∧ first ≠ 0 ∧ (Arithmetic.shiftLimit : Int) < second ∧
        refusal = .shiftTooLarge second := by
  cases op with
  | divide =>
    simp only [Operator.apply] at refuses
    split_ifs at refuses with zero
    cases refuses
    exact .inl ⟨rfl, zero, rfl⟩
  | shiftLeft =>
    simp only [Operator.apply] at refuses
    split_ifs at refuses with negative zero large
    · cases refuses
      exact .inr (.inl ⟨.inl rfl, negative, rfl⟩)
    · cases refuses
      exact .inr (.inr ⟨rfl, zero, large, rfl⟩)
  | shiftRight =>
    simp only [Operator.apply] at refuses
    split_ifs at refuses with negative
    cases refuses
    exact .inr (.inl ⟨.inr rfl, negative, rfl⟩)
  | _ => cases refuses

namespace Expr

/-! ### Places in a tree -/

/-- Every node of a tree is an expression, and is known to start at one of certain places. -/
def Placed (known : Location → Prop) : Expr → Prop
  | literal _ span | identifier _ span => ∃ place ∈ span.map Span.start, known place
  | group inner span => (∃ place ∈ span.map Span.start, known place) ∧ inner.Placed known
  | binary left _ right span =>
    (∃ place ∈ span.map Span.start, known place) ∧ left.Placed known ∧ right.Placed known
  | conditional condition whenTrue whenFalse span =>
    (∃ place ∈ span.map Span.start, known place) ∧ condition.Placed known ∧
      whenTrue.Placed known ∧ whenFalse.Placed known
  | foreign _ => False

variable {known : Location → Prop} {expr : Expr}

theorem Placed.exists_place (placed : expr.Placed known) :
    ∃ place, expr.place = some place ∧ known place := by
  cases expr with
  | literal | identifier => exact placed
  | group | binary | conditional => exact placed.1
  | foreign => exact placed.elim

theorem Placed.ungroup (placed : expr.Placed known) : expr.ungroup.Placed known := by
  induction expr with
  | group inner span inductionHypothesis => exact inductionHypothesis placed.2
  | _ => exact placed

/-- The first operand of a chain and the operands of its links are placed. -/
theorem Placed.unchain (placed : expr.Placed known) {links : List Link}
    (linksPlaced : ∀ link ∈ links, link.operand.Placed known) :
    (expr.unchain links).1.Placed known ∧
      ∀ link ∈ (expr.unchain links).2, link.operand.Placed known := by
  induction expr generalizing links with
  | group inner span inductionHypothesis => exact inductionHypothesis placed.2 linksPlaced
  | binary left op right span leftHypothesis _ =>
    exact leftHypothesis placed.2.1 (List.forall_mem_cons.2 ⟨placed.2.2, linksPlaced⟩)
  | _ => exact ⟨placed, linksPlaced⟩

/-- What is read from two expressions on starts where the first one does. -/
theorem Placed.cover {first last : Expr} (firstPlaced : first.Placed known)
    (lastPlaced : last.Placed known) :
    ∃ place ∈ (Span.cover first.span last.span).map Span.start, known place := by
  obtain ⟨place, starts, isKnown⟩ := firstPlaced.exists_place
  obtain ⟨_, lastStarts, _⟩ := lastPlaced.exists_place
  obtain ⟨firstSpan, firstSame, rfl⟩ := Option.map_eq_some_iff.1 starts
  obtain ⟨lastSpan, lastSame, _⟩ := Option.map_eq_some_iff.1 lastStarts
  exact ⟨firstSpan.start, by rw [firstSame, lastSame]; rfl, isKnown⟩

end Expr

/-- A tree that is read starts, with each of its nodes, at the place of a token. -/
theorem ReadAs.placed {level : Level} {tokens : List Token} {expr : Expr}
    (reading : ReadAs level tokens expr) {known : Location → Prop}
    (places : ∀ token ∈ tokens, known token.location) : expr.Placed known := by
  induction reading with
  | integer token _ | identifier token _ => exact ⟨_, rfl, places token List.mem_cons_self⟩
  | group opening closing tokens inner _ _ _ inductionHypothesis =>
    simp only [List.cons_append, List.forall_mem_cons, List.forall_mem_append] at places
    exact ⟨⟨_, rfl, places.1⟩, inductionHypothesis places.2.1⟩
  | operand _ _ _ _ inductionHypothesis => exact inductionHypothesis places
  | unconditional _ _ _ inductionHypothesis => exact inductionHypothesis places
  | operation _ _ _ _ _ _ _ _ _ leftHypothesis rightHypothesis =>
    simp only [List.forall_mem_cons, List.forall_mem_append] at places
    have left := leftHypothesis places.1
    have right := rightHypothesis places.2.2
    exact ⟨left.cover right, left, right⟩
  | conditional _ _ _ _ _ _ _ _ _ _ _ _ _ conditionHypothesis trueHypothesis falseHypothesis =>
    simp only [List.forall_mem_cons, List.forall_mem_append] at places
    have condition := conditionHypothesis places.1
    have whenFalse := falseHypothesis places.2.2.2.2
    exact ⟨condition.cover whenFalse, condition, trueHypothesis places.2.2.1, whenFalse⟩

namespace Expr

/-! ### Operations that evaluation gets to -/

/-- The evaluation of a tree gets to an operation on two values. -/
inductive Reaches (bindings : Option Bindings) : Expr → Operator → Int → Int → Prop
  | operation (left : Expr) (op : Operator) (right : Expr) (span : Option Span)
      (first second : Int) (leftValue : left.evaluate bindings = .ok first)
      (rightValue : right.evaluate bindings = .ok second) :
    Reaches bindings (binary left op right span) op first second
  | left (left right : Expr) (outer op : Operator) (span : Option Span) (first second : Int)
      (reached : Reaches bindings left op first second) :
    Reaches bindings (binary left outer right span) op first second
  | right (left right : Expr) (outer op : Operator) (span : Option Span) (value first second : Int)
      (leftValue : left.evaluate bindings = .ok value)
      (reached : Reaches bindings right op first second) :
    Reaches bindings (binary left outer right span) op first second
  | group (inner : Expr) (op : Operator) (span : Option Span) (first second : Int)
      (reached : Reaches bindings inner op first second) :
    Reaches bindings (group inner span) op first second
  | condition (condition whenTrue whenFalse : Expr) (op : Operator) (span : Option Span)
      (first second : Int) (reached : Reaches bindings condition op first second) :
    Reaches bindings (conditional condition whenTrue whenFalse span) op first second
  | whenTrue (condition whenTrue whenFalse : Expr) (op : Operator) (span : Option Span)
      (choice first second : Int) (chosen : condition.evaluate bindings = .ok choice)
      (isTrue : choice ≠ 0) (reached : Reaches bindings whenTrue op first second) :
    Reaches bindings (conditional condition whenTrue whenFalse span) op first second
  | whenFalse (condition whenTrue whenFalse : Expr) (op : Operator) (span : Option Span)
      (first second : Int) (chosen : condition.evaluate bindings = .ok 0)
      (reached : Reaches bindings whenFalse op first second) :
    Reaches bindings (conditional condition whenTrue whenFalse span) op first second

/-- What evaluation fails with: an operation that it gets to is refused at a known place, or a name
at a known place has no value. -/
inductive FailsWith (bindings : Option Bindings) (known : Location → Prop) (expr : Expr) :
    EvaluationError → Prop
  | refused (refusal : Refusal) (place : Location) (op : Operator) (first second : Int)
      (isKnown : known place) (reached : expr.Reaches bindings op first second)
      (refuses : op.apply first second = .error refusal) :
    FailsWith bindings known expr (.refused refusal (some place))
  | unbound (failure : Unbound) (place : Location) (isKnown : known place)
      (located : failure.place = some place) : FailsWith bindings known expr (.unbound failure)

variable {bindings : Option Bindings} {known : Location → Prop}

/-- What a part fails with the whole fails with, if evaluation of the whole gets to what it gets
to in the part. -/
theorem FailsWith.ofPart {part whole : Expr} {cause : EvaluationError}
    (fails : part.FailsWith bindings known cause)
    (reaches : ∀ op first second, part.Reaches bindings op first second →
      whole.Reaches bindings op first second) : whole.FailsWith bindings known cause := by
  cases fails with
  | refused refusal place op first second isKnown reached refuses =>
    exact .refused refusal place op first second isKnown (reaches _ _ _ reached) refuses
  | unbound failure place isKnown located => exact .unbound failure place isKnown located

/-- Looking a name up fails only for a name without a value. -/
theorem unbound_of_valueOf {name : String} {place : Option Location} {cause : EvaluationError}
    (failed : valueOf bindings name place = .error cause) :
    bindings.bind (·.lookup name) = none ∧
      ∃ similar, cause = .unbound ⟨name, place, similar⟩ := by
  cases bindings with
  | none =>
    cases failed
    exact ⟨rfl, [], rfl⟩
  | some bindings =>
    simp only [valueOf, Bindings.get] at failed
    cases found : bindings.lookup name with
    | some symbol =>
      rw [found] at failed
      cases failed
    | none =>
      rw [found] at failed
      cases failed
      exact ⟨found, _, rfl⟩

theorem refusal_of_operate {op : Operator} {first second : Int} {place : Option Location}
    {cause : EvaluationError} (failed : operate op first second place = .error cause) :
    ∃ refusal, cause = .refused refusal place ∧ op.apply first second = .error refusal := by
  unfold operate at failed
  cases result : op.apply first second with
  | ok value =>
    rw [result] at failed
    cases failed
  | error refusal =>
    rw [result] at failed
    cases failed
    exact ⟨refusal, rfl, rfl⟩

/-- The evaluation of a placed tree fails in no other way. -/
theorem failsWith_of_evaluate {expr : Expr} {cause : EvaluationError} (placed : expr.Placed known)
    (failed : expr.evaluate bindings = .error cause) : expr.FailsWith bindings known cause := by
  induction expr with
  | literal value span =>
    rw [evaluate] at failed
    cases failed
  | identifier name span =>
    rw [evaluate] at failed
    obtain ⟨_, similar, rfl⟩ := unbound_of_valueOf failed
    obtain ⟨place, starts, isKnown⟩ := placed
    exact .unbound _ place isKnown starts
  | group inner span inductionHypothesis =>
    rw [evaluate_group] at failed
    exact (inductionHypothesis placed.2 failed).ofPart fun _ _ _ => .group _ _ _ _ _
  | binary left op right span leftHypothesis rightHypothesis =>
    obtain ⟨_, leftPlaced, rightPlaced⟩ := placed
    rw [evaluate_binary, bind_eq_error_iff] at failed
    obtain leftFailed | ⟨first, leftValue, failed⟩ := failed
    · exact (leftHypothesis leftPlaced leftFailed).ofPart fun _ _ _ => .left _ _ _ _ _ _ _
    rw [bind_eq_error_iff] at failed
    obtain rightFailed | ⟨second, rightValue, failed⟩ := failed
    · exact (rightHypothesis rightPlaced rightFailed).ofPart
        fun _ _ _ => .right _ _ _ _ _ _ _ _ leftValue
    obtain ⟨place, starts, isKnown⟩ := rightPlaced.exists_place
    obtain ⟨refusal, rfl, refuses⟩ := refusal_of_operate failed
    rw [starts]
    exact .refused refusal place op first second isKnown
      (.operation left op right span first second leftValue rightValue) refuses
  | conditional condition whenTrue whenFalse span conditionHypothesis trueHypothesis
      falseHypothesis =>
    obtain ⟨_, conditionPlaced, truePlaced, falsePlaced⟩ := placed
    rw [evaluate_conditional, bind_eq_error_iff] at failed
    obtain conditionFailed | ⟨choice, chosen, failed⟩ := failed
    · exact (conditionHypothesis conditionPlaced conditionFailed).ofPart
        fun _ _ _ => .condition _ _ _ _ _ _ _
    by_cases isTrue : choice ≠ 0
    · rw [if_pos isTrue] at failed
      exact (trueHypothesis truePlaced failed).ofPart
        fun _ _ _ => .whenTrue _ _ _ _ _ _ _ _ chosen isTrue
    · rw [if_neg isTrue] at failed
      rw [Decidable.not_not.1 isTrue] at chosen
      exact (falseHypothesis falsePlaced failed).ofPart
        fun _ _ _ => .whenFalse _ _ _ _ _ _ _ chosen
  | foreign value => exact placed.elim

end Expr

end IntExpr
