/-
This file proves that the value of a tree depends on a table only through the names that are
looked up. Names are looked up from left to right, those in branches that are not selected are
left out, and none is looked up behind the first failure. Two tables that agree on the names that
are looked up under one of them therefore lead to the same look-ups and to the same value or
failure; what may differ is which names are suggested for one that has no value, since that
depends on all names of a table. And what stands in a branch that is not selected does not matter.
-/

import IntExpr.Proofs.Record
import IntExpr.Report

namespace IntExpr

/-! ### Names in a table -/

/-- The value of a name, if there is a table and the name has a value in it. -/
def valueIn? (bindings : Option Bindings) (name : String) : Option Int :=
  (bindings.bind (·.lookup name)).map Symbol.value

/-- The cause of a failure without the names that are suggested. -/
def EvaluationError.withoutSimilar : EvaluationError → EvaluationError
  | unbound failure => unbound { failure with similar := [] }
  | cause => cause

/-- A report without the suggestions that are made for a name without a value. -/
def Report.withoutSimilar : Report → Report
  | diagnosed .unboundIdentifier diagnostic =>
    diagnosed .unboundIdentifier { diagnostic with suggestions := none }
  | report => report

theorem EvaluationError.report_withoutSimilar (cause : EvaluationError) :
    cause.withoutSimilar.report.withoutSimilar = cause.report.withoutSimilar := by
  cases cause <;> rfl

/-- What looking a name up comes to, suggestions aside, depends only on the value of the name. -/
theorem mapError_withoutSimilar_valueOf (bindings : Option Bindings) (name : String)
    (place : Option Location) :
    (valueOf bindings name place).mapError EvaluationError.withoutSimilar =
      match valueIn? bindings name with
      | some value => .ok value
      | none => .error (.unbound ⟨name, place, []⟩) := by
  cases bindings with
  | none => rfl
  | some bindings =>
    simp only [valueOf, Bindings.get, valueIn?, Option.bind_some]
    cases bindings.lookup name <;> rfl

/-! ### Outcomes that agree -/

/-- Two outcomes that agree when something is left out of their failures are the same value, or
failures that agree. -/
theorem mapError_eq_cases {Cause Other : Type} {change : Cause → Other}
    {first second : Except Cause Int} (same : second.mapError change = first.mapError change) :
    (∃ value, first = .ok value ∧ second = .ok value) ∨
      ∃ cause other,
        first = .error cause ∧ second = .error other ∧ change other = change cause := by
  cases first with
  | ok value =>
    cases second with
    | ok other => cases same; exact .inl ⟨_, rfl, rfl⟩
    | error other => cases same
  | error cause =>
    cases second with
    | ok other => cases same
    | error other => exact .inr ⟨cause, other, rfl, rfl, Except.error.inj same⟩

namespace Expr

/-- Two tables that lead to outcomes that agree for each name that is looked up under the first
lead to outcomes that agree for the tree, by way of the same events. What is left out of the
failures to compare them is arbitrary. -/
theorem meaning_agrees {Cause : Type} (change : EvaluationError → Cause)
    (first second : Option Bindings) (expr : Expr)
    (agree : ∀ name ∈ expr.lookups first, ∀ place,
      (valueOf second name place).mapError change = (valueOf first name place).mapError change) :
    (expr.meaning second).mapError change = (expr.meaning first).mapError change ∧
      expr.events second = expr.events first := by
  induction expr with
  | literal | foreign => exact ⟨rfl, rfl⟩
  | identifier name span => exact ⟨agree name List.mem_cons_self _, rfl⟩
  | group inner span inductionHypothesis => exact inductionHypothesis agree
  | binary left op right span leftHypothesis rightHypothesis =>
    rw [lookups, List.forall_mem_append] at agree
    obtain ⟨leftSame, leftEvents⟩ := leftHypothesis agree.1
    rw [meaning, meaning, events, events, leftEvents]
    obtain ⟨value, here, there⟩ | ⟨cause, other, here, there, same⟩ := mapError_eq_cases leftSame
    · rw [here] at agree ⊢
      rw [there]
      obtain ⟨rightSame, rightEvents⟩ := rightHypothesis agree.2
      rw [rightEvents]
      obtain ⟨value, here, there⟩ | ⟨cause, other, here, there, same⟩ :=
        mapError_eq_cases rightSame
      · rw [here, there]
        exact ⟨rfl, rfl⟩
      · rw [here, there]
        exact ⟨congrArg Except.error same, rfl⟩
    · rw [here, there]
      exact ⟨congrArg Except.error same, rfl⟩
  | conditional condition whenTrue whenFalse span conditionHypothesis trueHypothesis
      falseHypothesis =>
    rw [lookups, List.forall_mem_append] at agree
    obtain ⟨conditionSame, conditionEvents⟩ := conditionHypothesis agree.1
    rw [meaning, meaning, events, events, conditionEvents]
    obtain ⟨choice, here, there⟩ | ⟨cause, other, here, there, same⟩ :=
      mapError_eq_cases conditionSame
    · rw [here] at agree ⊢
      rw [there]
      by_cases isTrue : choice ≠ 0
      · simp only [if_pos isTrue] at agree ⊢
        exact ⟨(trueHypothesis agree.2).1, congrArg _ (trueHypothesis agree.2).2⟩
      · simp only [if_neg isTrue] at agree ⊢
        exact ⟨(falseHypothesis agree.2).1, congrArg _ (falseHypothesis agree.2).2⟩
    · rw [here, there]
      exact ⟨congrArg Except.error same, rfl⟩

/-! ### The order of look-ups -/

/-- The names among the events of a tree are those that its meaning looks up. -/
theorem filterMap_name?_events (bindings : Option Bindings) (expr : Expr) :
    (expr.events bindings).filterMap Event.name? = expr.lookups bindings := by
  induction expr with
  | literal | identifier | foreign => rfl
  | group inner span inductionHypothesis => exact inductionHypothesis
  | binary left op right span leftHypothesis rightHypothesis =>
    rw [events, lookups, List.filterMap_append, leftHypothesis]
    cases left.meaning bindings with
    | error cause => rfl
    | ok first =>
      rw [List.filterMap_append, rightHypothesis]
      cases right.meaning bindings <;> simp [Event.name?]
  | conditional condition whenTrue whenFalse span conditionHypothesis trueHypothesis
      falseHypothesis =>
    rw [events, lookups, List.filterMap_append, conditionHypothesis]
    cases condition.meaning bindings with
    | error cause => rfl
    | ok choice =>
      by_cases isTrue : choice ≠ 0
      · simp only [if_pos isTrue, trueHypothesis]
      · simp only [if_neg isTrue, falseHypothesis]

theorem lookedUp_eq_lookups (bindings : Option Bindings) (expr : Expr) :
    expr.lookedUp bindings = expr.lookups bindings := by
  rw [lookedUp, record_eq_events, filterMap_name?_events]

/-- The names that are looked up are the first of those that are selected, and all of them if the
tree has a value. -/
theorem lookups_prefix (bindings : Option Bindings) (expr : Expr) :
    expr.lookups bindings <+: expr.selectedNames bindings ∧
      ∀ value, expr.meaning bindings = .ok value →
        expr.lookups bindings = expr.selectedNames bindings := by
  induction expr with
  | literal | identifier | foreign => exact ⟨List.prefix_rfl, fun _ _ => rfl⟩
  | group inner span inductionHypothesis => exact inductionHypothesis
  | binary left op right span leftHypothesis rightHypothesis =>
    rw [lookups, selectedNames, meaning]
    cases leftValue : left.meaning bindings with
    | error cause =>
      rw [List.append_nil]
      exact ⟨leftHypothesis.1.trans (List.prefix_append _ _), fun _ failed => by cases failed⟩
    | ok first =>
      rw [leftHypothesis.2 first leftValue, List.prefix_append_right_inj]
      refine ⟨rightHypothesis.1, fun value valued => ?_⟩
      cases rightValue : right.meaning bindings with
      | error cause => rw [rightValue] at valued; cases valued
      | ok second => rw [rightHypothesis.2 second rightValue]
  | conditional condition whenTrue whenFalse span conditionHypothesis trueHypothesis
      falseHypothesis =>
    rw [lookups, selectedNames, meaning]
    cases conditionValue : condition.meaning bindings with
    | error cause =>
      rw [List.append_nil, List.append_nil]
      exact ⟨conditionHypothesis.1, fun _ failed => by cases failed⟩
    | ok choice =>
      rw [conditionHypothesis.2 choice conditionValue, List.prefix_append_right_inj]
      by_cases isTrue : choice ≠ 0
      · simp only [if_pos isTrue]
        exact ⟨trueHypothesis.1, fun value valued => by rw [trueHypothesis.2 value valued]⟩
      · simp only [if_neg isTrue]
        exact ⟨falseHypothesis.1, fun value valued => by rw [falseHypothesis.2 value valued]⟩

/-! ### Branches that are not selected -/

/-- One tree is another with other branches in places where evaluation does not select them. -/
inductive SameSelected (bindings : Option Bindings) : Expr → Expr → Prop
  | same (expr : Expr) : SameSelected bindings expr expr
  | group (inner other : Expr) (span : Option Span)
      (innerSame : SameSelected bindings inner other) :
    SameSelected bindings (group inner span) (group other span)
  | binary (left otherLeft right otherRight : Expr) (op : Operator) (span : Option Span)
      (leftSame : SameSelected bindings left otherLeft)
      (rightSame : SameSelected bindings right otherRight) :
    SameSelected bindings (binary left op right span) (binary otherLeft op otherRight span)
  | whenTrue (condition otherCondition whenTrue otherTrue whenFalse otherFalse : Expr)
      (span : Option Span) (choice : Int) (chosen : condition.evaluate bindings = .ok choice)
      (isTrue : choice ≠ 0) (conditionSame : SameSelected bindings condition otherCondition)
      (trueSame : SameSelected bindings whenTrue otherTrue) :
    SameSelected bindings (conditional condition whenTrue whenFalse span)
      (conditional otherCondition otherTrue otherFalse span)
  | whenFalse (condition otherCondition whenTrue otherTrue whenFalse otherFalse : Expr)
      (span : Option Span) (chosen : condition.evaluate bindings = .ok 0)
      (conditionSame : SameSelected bindings condition otherCondition)
      (falseSame : SameSelected bindings whenFalse otherFalse) :
    SameSelected bindings (conditional condition whenTrue whenFalse span)
      (conditional otherCondition otherTrue otherFalse span)
  | neither (condition otherCondition whenTrue otherTrue whenFalse otherFalse : Expr)
      (span : Option Span) (cause : EvaluationError)
      (failed : condition.evaluate bindings = .error cause)
      (conditionSame : SameSelected bindings condition otherCondition) :
    SameSelected bindings (conditional condition whenTrue whenFalse span)
      (conditional otherCondition otherTrue otherFalse span)

namespace SameSelected

variable {bindings : Option Bindings} {expr other : Expr}

theorem place_eq (same : SameSelected bindings expr other) : other.place = expr.place := by
  cases same <;> rfl

/-- Branches that are not selected make no difference to a meaning or to its events. -/
theorem meaning_eq (same : SameSelected bindings expr other) :
    other.meaning bindings = expr.meaning bindings ∧
      other.events bindings = expr.events bindings := by
  induction same with
  | same => exact ⟨rfl, rfl⟩
  | group _ _ _ _ innerSame => exact innerSame
  | binary _ _ _ _ _ _ _ rightSame leftEq rightEq =>
    rw [meaning, meaning, events, events, leftEq.1, leftEq.2, rightEq.1, rightEq.2,
      rightSame.place_eq]
    exact ⟨rfl, rfl⟩
  | whenTrue _ _ _ _ _ _ _ choice chosen isTrue _ _ conditionEq trueEq =>
    rw [(evaluate_and_follow _).1] at chosen
    rw [meaning, meaning, events, events, conditionEq.1, conditionEq.2, chosen]
    simp only [if_pos isTrue]
    exact ⟨trueEq.1, congrArg _ trueEq.2⟩
  | whenFalse _ _ _ _ _ _ _ chosen _ _ conditionEq falseEq =>
    rw [(evaluate_and_follow _).1] at chosen
    rw [meaning, meaning, events, events, conditionEq.1, conditionEq.2, chosen]
    exact ⟨falseEq.1, congrArg _ falseEq.2⟩
  | neither _ _ _ _ _ _ _ cause failed _ conditionEq =>
    rw [(evaluate_and_follow _).1] at failed
    rw [meaning, meaning, events, events, conditionEq.1, conditionEq.2, failed]
    exact ⟨rfl, rfl⟩

end SameSelected

/-! ### Dependence on look-ups -/

/-- The value of a tree, or what it fails with apart from the names that are suggested, depends
only on the names that are looked up: a table that agrees with another on the names that are
looked up under that leads to the same look-ups and the same outcome. The names are those that
evaluation looks up in its loop over chains; they come from left to right, without the names in
branches that are not selected, and there are no more of them behind the first failure. So another
tree in place of a branch that is not selected changes nothing. -/
theorem evaluate_depends_on_lookups (expr : Expr) (first second : Option Bindings)
    (agree : ∀ name ∈ expr.lookedUp first, valueIn? second name = valueIn? first name) :
    (expr.lookedUp second = expr.lookedUp first ∧
      (expr.evaluate second).mapError EvaluationError.withoutSimilar =
        (expr.evaluate first).mapError EvaluationError.withoutSimilar ∧
      (expr.evaluate second).mapError (·.report.withoutSimilar) =
        (expr.evaluate first).mapError (·.report.withoutSimilar)) ∧
    (expr.evaluateBy (Event.outcome first) = expr.evaluate first ∧
      expr.lookedUp first = expr.lookups first ∧
      expr.lookedUp first <+: expr.selectedNames first ∧
      ∀ value, expr.evaluate first = .ok value →
        expr.lookedUp first = expr.selectedNames first) ∧
    ∀ other, SameSelected first expr other →
      other.evaluate first = expr.evaluate first ∧ other.lookedUp first = expr.lookedUp first := by
  have names := lookedUp_eq_lookups first expr
  have order := lookups_prefix first expr
  obtain ⟨outcomes, sameEvents⟩ := meaning_agrees EvaluationError.withoutSimilar first second expr
    fun name member place => by
      rw [mapError_withoutSimilar_valueOf second, mapError_withoutSimilar_valueOf first,
        agree name (names ▸ member)]
  refine ⟨⟨?_, ?_, ?_⟩, ⟨evaluateBy_outcome first expr, names, names ▸ order.1, ?_⟩, ?_⟩
  · rw [lookedUp, lookedUp, record_eq_events, record_eq_events, sameEvents]
  · rw [(evaluate_and_follow _).1, (evaluate_and_follow _).1, outcomes]
  · rw [(evaluate_and_follow _).1, (evaluate_and_follow _).1]
    obtain ⟨value, here, there⟩ | ⟨cause, other, here, there, same⟩ := mapError_eq_cases outcomes
    · rw [here, there]
    · rw [here, there]
      exact congrArg Except.error (calc
        other.report.withoutSimilar = other.withoutSimilar.report.withoutSimilar :=
          other.report_withoutSimilar.symm
        _ = cause.withoutSimilar.report.withoutSimilar := by rw [same]
        _ = cause.report.withoutSimilar := cause.report_withoutSimilar)
  · rw [(evaluate_and_follow _).1, names]
    exact order.2
  · intro other same
    obtain ⟨sameMeaning, sameEvents⟩ := same.meaning_eq
    rw [(evaluate_and_follow _).1, (evaluate_and_follow _).1, lookedUp, lookedUp, record_eq_events,
      record_eq_events, sameMeaning, sameEvents]
    exact ⟨rfl, rfl⟩

/-- In `(0 ? z : x) + y`, which looks up `x` and `y`, the values of `z` and of other names that
are spelled like `y` do not matter. -/
theorem evaluate_sum_depends_on_two_names :
    let choice : Expr :=
      conditional (literal 0 none) (identifier "z" none) (identifier "x" none) none
    let sum : Expr := binary (group choice none) .plus (identifier "y" none) none
    let first : Bindings := ⟨[⟨"x", 1, none⟩, ⟨"z", 5, none⟩]⟩
    let second : Bindings := ⟨[⟨"ya", 2, none⟩, ⟨"x", 1, none⟩]⟩
    sum.lookedUp (some first) = ["x", "y"] ∧ sum.lookedUp (some second) = ["x", "y"] ∧
      (sum.evaluate (some second)).mapError (·.report.withoutSimilar) =
        (sum.evaluate (some first)).mapError (·.report.withoutSimilar) := by
  intro choice sum first second
  have names : sum.lookedUp (some first) = ["x", "y"] := by
    rw [lookedUp_eq_lookups]
    decide +kernel
  have depends := evaluate_depends_on_lookups sum (some first) (some second) (by
    rw [names]
    decide +kernel)
  exact ⟨names, depends.1.1.trans names, depends.1.2.2⟩

end Expr

end IntExpr
