/-
This file proves that the tables agree, and that a calculation driven by them is the calculation.
Every operator has a tier, the tier has it among its operators and binds in the right place, and
what the tables say of its function is what it does. So nothing that is looked up is missing and
no operation is put together of parts that do not belong together, and since no tree that is
parsed holds a value that is no expression, what the program would do if it failed inside makes
no difference.
-/

import IntExpr.Proofs.Acceptance
import IntExpr.Proofs.Failures
import IntExpr.Tables

namespace IntExpr

namespace Tabled

/-! ### The tables agree -/

@[simp] theorem lookup_operatorTiers (op : Operator) :
    operatorTiers.lookup (.operator op) = some op.tier := by
  cases op <;> rfl

theorem lookup_operatorTiers_of_other {type : TokenType} (noOperator : ∀ op, type ≠ .operator op) :
    operatorTiers.lookup type = none := by
  cases type with
  | operator op => exact absurd rfl (noOperator op)
  | _ => rfl

@[simp] theorem lookup_tierPrecedences (tier : Tier) :
    tierPrecedences.lookup tier = some (tier.strength + 1) := by
  cases tier <;> rfl

/-- A tier has exactly the operators among its operators that are in it. -/
theorem lookup_tierOperators (tier : Tier) :
    ∃ types, tierOperators.lookup tier = some types ∧
      ∀ op, .operator op ∈ types ↔ op.tier = tier := by
  cases tier <;> exact ⟨_, rfl, fun op => by cases op <;> decide⟩

theorem lookup_operatorFunctions (op : Operator) :
    ∃ function, operatorFunctions.lookup (.operator op) = some function ∧
      ∀ left right, function left right = op.apply left right := by
  cases op <;> exact ⟨_, rfl, fun _ _ => rfl⟩

theorem operation_eq (left : Expr) (type : TokenType) (right : Expr) (tier : Tier)
    (span : Option Span) :
    operation left type right tier span = Expr.ofOperation left type right tier span := by
  obtain ⟨types, listed, members⟩ := lookup_tierOperators tier
  cases type with
  | operator op => simp only [operation, listed, Expr.ofOperation, members]
  | _ => rfl

/-! ### Parsing -/

@[simp] theorem precedence_operator (op : Operator) :
    precedence (.operator op) = op.tier.strength + 1 := by
  simp [precedence]

theorem precedence_of_other {type : TokenType} (noOperator : ∀ op, type ≠ .operator op) :
    precedence type = 0 := by
  rw [precedence, lookup_operatorTiers_of_other noOperator]

variable (crash : Crash)

@[simp] theorem operandPrecedence_eq (op : Operator) :
    operandPrecedence crash (.operator op) = pure (op.tier.tighter.strength + 1) := by
  have listed : op.tier.strength + 1 + 1 ∈ precedences := by cases op <;> decide
  simp [operandPrecedence, listed, op.tier.tighter_strength]

@[simp] theorem combine_eq (op : Operator) (left right : Expr) (span : Option Span) :
    combine crash (.operator op) left right span = pure (.binary left op right span) := by
  simp [combine, operation_eq, Expr.ofOperation]

/-- At the precedence of a level, which is one more than its strength, the operators go on that the
level admits. -/
theorem operationAt_level (level : Level) (type : TokenType) :
    operationAt crash (level.strength + 1) type = none ∧
        (level.operation type : Option (Operation Scanner Level)) = none ∨
      ∃ op, type = .operator op ∧
        operationAt crash (level.strength + 1) type =
          some ⟨operandPrecedence crash type, combine crash type⟩ ∧
        level.operation type = some (op.operation : Operation Scanner Level) := by
  by_cases isOperator : ∃ op, type = .operator op
  · obtain ⟨op, rfl⟩ := isOperator
    have binds : level.strength + 1 ≤ precedence (.operator op) ↔ level.admits op.tier = true := by
      rw [precedence_operator, Nat.add_le_add_iff_right, Level.admits_iff]
    by_cases admitted : level.admits op.tier = true
    · exact .inr ⟨op, rfl, if_pos (binds.2 admitted), if_pos admitted⟩
    · exact .inl ⟨if_neg fun tight => admitted (binds.1 tight), if_neg admitted⟩
  · have noOperator (op : Operator) (same : type = .operator op) : False := isOperator ⟨op, same⟩
    have loose : ¬ level.strength + 1 ≤ precedence type := by
      rw [precedence_of_other noOperator]
      exact Nat.not_succ_le_zero _
    exact .inl ⟨if_neg loose, Level.operation_of_stop fun op same => (noOperator op same).elim⟩

/-- Both parsers read from the same scanner. -/
def sameScanner : Parser.Relation Scanner Scanner where
  near _ scanner other := scanner = other
  endsAt _ _ _ := True
  ahead scanner := scanner.tape.tokens.length
  apart _ scanner other := scanner = other

theorem sameScanner_simulation :
    Parser.Simulation sameScanner (parser crash) Parse.parser
      fun precedence level => precedence = level.strength + 1 where
  peek := by
    rintro _ scanner _ rfl
    show Paired _ _ (Parse.peek scanner) (Parse.peek scanner)
    rcases Parse.peek_cases scanner with ⟨token, after, peeked, again, _, same⟩ |
      ⟨cause, after, failed, _⟩
    · rw [peeked]
      exact .ok _ _ _ ⟨rfl, again, again, congrArg (·.tokens.length) same, fun _ _ => trivial⟩
    · rw [failed]
      exact .error _ _ _ rfl
  take := by
    rintro _ token scanner _ rfl _ shown more
    obtain ⟨after, took, rest⟩ := Parse.take_of_peek shown
    have shorter := Scanner.length_rest_lt (Parse.next_of_peek shown) more
    rw [← rest] at shorter
    show Paired _ _ (Parse.take scanner) (Parse.take scanner)
    rw [took]
    exact .ok _ _ _ ⟨rfl, rfl, shorter, trivial⟩
  fault near _ := near
  span := by
    rintro _ scanner _ rfl left right _ _ leftSame rightSame _
    have covered := congrArg₂ Span.cover leftSame rightSame
    exact ⟨congrArg (EStateM.Result.ok · _) covered, congrArg (EStateM.Result.ok · _) covered⟩
  unread := by
    rintro _ scanner _ rfl
    exact ⟨scanner.length_tape_le, scanner.length_tape_le⟩
  deeper together scanner other near :=
    (together scanner other near).mono fun _ _ _ ended => ⟨ended.near, ended.ahead, ended.endsAt⟩
  loosest := rfl
  branch := rfl
  loosest_iff := by
    rintro _ level rfl
    constructor
    · intro loosest
      exact Level.eq_of_strength_eq (Nat.succ.inj loosest)
    · rintro rfl
      rfl
  operation := by
    rintro _ level rfl type
    obtain none | ⟨op, rfl, found, otherFound⟩ := operationAt_level crash level type
    · exact .inl none
    · refine .inr ⟨TokenType.noConfusion, _, _, found, otherFound, ?_, fun left right span => ?_⟩
      · exact ⟨_, _, operandPrecedence_eq crash op, rfl, rfl⟩
      · exact ⟨_, rfl, combine_eq crash op left right span, rfl⟩

theorem parse_eq (source : String) : parse crash source = IntExpr.parse source := by
  funext scanner
  have paired : Paired _ _ (parse crash source scanner) (IntExpr.parse source scanner) :=
    (sameScanner_simulation crash).paired_whole_tooDeep (Eq.refl (scanner.restart source))
  generalize parse crash source scanner = left at paired ⊢
  generalize IntExpr.parse source scanner = right at paired ⊢
  cases paired with
  | ok expr first second near => rw [show first = second from near]
  | error cause first second apart => rw [show first = second from apart]

/-! ### Evaluation -/

/-- What the table of operators says of an operation is what the operation comes to, and nothing
else is looked up in it. -/
theorem carryOut_eq (bindings : Option Bindings) {event : Event}
    (noForeign : ∀ value, event ≠ .foreign value) :
    carryOut crash bindings event = event.attempt bindings := by
  cases event with
  | lookup name place => rfl
  | operation op first second place =>
    obtain ⟨function, listed, applies⟩ := lookup_operatorFunctions op
    simp only [carryOut, listed, applies, Event.attempt, Event.outcome, operate]
    cases op.apply first second <;> rfl
  | foreign value => exact absurd rfl (noForeign value)

section

variable {carryOut other : Event → Except Interruption Int}
  (same : ∀ {event}, (∀ value, event ≠ .foreign value) → carryOut event = other event)
  {known : Location → Prop}

include same

theorem followWith_congr {evaluateOperand otherOperand : Expr → Except Interruption Int}
    (operands : ∀ {expr : Expr}, expr.Placed known → evaluateOperand expr = otherOperand expr)
    (value : Int) {links : List Expr.Link} (placed : ∀ link ∈ links, link.operand.Placed known) :
    Expr.followWith carryOut evaluateOperand value links =
      Expr.followWith other otherOperand value links := by
  induction links generalizing value with
  | nil => rfl
  | cons link rest inductionHypothesis =>
    obtain ⟨linkPlaced, restPlaced⟩ := List.forall_mem_cons.1 placed
    rw [Expr.followWith, Expr.followWith, operands linkPlaced.ungroup]
    refine congrArg (_ >>= ·) (funext fun operand => ?_)
    rw [same (by simp)]
    exact congrArg (_ >>= ·) (funext fun next => inductionHypothesis next restPlaced)

/-- Ways to carry out events that differ in foreign values only make no difference to a tree in
which every node is an expression. -/
theorem evaluateByWithin_congr (room : Nat) {expr : Expr} (placed : expr.Placed known) :
    expr.evaluateByWithin carryOut room = expr.evaluateByWithin other room := by
  induction room generalizing expr with
  | zero => rfl
  | succ room inductionHypothesis =>
    cases expr with
    | literal => rfl
    | identifier name span => exact same (by simp)
    | group inner span => exact inductionHypothesis placed.2.ungroup
    | binary left op right span =>
      obtain ⟨_, leftPlaced, rightPlaced⟩ := placed
      have single : ∀ link ∈ [Expr.Link.mk op right], link.operand.Placed known := by
        simpa using rightPlaced
      obtain ⟨headPlaced, linksPlaced⟩ := leftPlaced.unchain single
      rw [Expr.evaluateByWithin, Expr.evaluateByWithin, inductionHypothesis headPlaced]
      exact congrArg (_ >>= ·) (funext fun value =>
        followWith_congr same inductionHypothesis value linksPlaced)
    | conditional condition whenTrue whenFalse span =>
      obtain ⟨_, conditionPlaced, truePlaced, falsePlaced⟩ := placed
      rw [Expr.evaluateByWithin, Expr.evaluateByWithin,
        inductionHypothesis conditionPlaced.ungroup, inductionHypothesis truePlaced.ungroup,
        inductionHypothesis falsePlaced.ungroup]
    | foreign value => exact placed.elim

end

/-- The calculation driven by tables is the calculation, whatever the program would do if it failed
inside, and however many evaluations there is room for. -/
theorem calculateTextWithin_eq (room : Nat) (source : String) (symbols : List (String × Int)) :
    calculateTextWithin crash room source symbols =
      IntExpr.calculateTextWithin room source symbols := by
  rw [calculateTextWithin, parse_eq, IntExpr.calculateTextWithin, calculateWithin]
  cases parsed : parseText inputName source with
  | error cause =>
    unfold parseText at parsed
    generalize IntExpr.parse source (Scanner.start inputName "") = ran at parsed ⊢
    cases ran <;> cases parsed
    rfl
  | ok expr =>
    obtain ⟨tokens, last, _, reading, _⟩ := (parseText_eq_ok_iff _ _ _).1 parsed
    have placed : expr.Placed fun _ => True := reading.placed fun _ _ => trivial
    unfold parseText at parsed
    generalize IntExpr.parse source (Scanner.start inputName "") = ran at parsed ⊢
    cases ran <;> cases parsed
    exact congrArg (·.mapError Interruption.failure)
      (evaluateByWithin_congr (carryOut_eq crash _) room placed)

end Tabled

end IntExpr
