/-
This file bounds how many evaluations are under way at once by how deep a text nests. The two
count different things: parentheses cost a level of nesting and no evaluation, unless they are
around the whole text, and a condition is read on the level of its conditional and evaluated on
one of its own. A condition in parentheses makes up for that, and so does a condition that is a
single numeral or name, since a branch nests as deep as that; an operation that is a condition
does not. Such a condition nests at least one level itself, so the depth of evaluation stays
below twice the nesting, and a staircase of such conditions comes as close to that as possible.
-/

import IntExpr.Proofs.Bounds
import IntExpr.Proofs.Composition

namespace IntExpr

/-! ### Depth and nesting -/

theorem Expr.chainDepth_le (expr : Expr) :
    expr.chainDepth + expr.isOperation.toNat ≤ expr.operandDepth := by
  induction expr with
  | group inner span inductionHypothesis => exact Nat.le_of_add_right_le inductionHypothesis
  | _ => exact Nat.le_refl _

/-- How many evaluations of an expression that has been read can be under way at once, and how
many bare conditions they can come from. -/
structure DepthBounds (expr : Expr) : Prop where
  whole : expr.depth ≤ expr.nesting + expr.bareConditions
  operand : expr.operandDepth ≤ expr.nestingBelow + 1 + expr.bareConditions
  bare : expr.bareConditions ≤ expr.nestingBelow
  /-- What is no conditional costs no level more as a condition, unless it is a bare operation,
  or no more than a numeral or a name. -/
  operandAlone : expr.isConditional = false → expr.operandDepth = 1 ∨
    expr.operandDepth ≤ expr.nestingBelow + (expr.bareConditions + expr.isOperation.toNat)
  bareAlone : expr.isConditional = false →
    expr.bareConditions = 0 ∨ expr.bareConditions + 1 ≤ expr.nestingBelow

/-- What is read as an expression keeps the bounds: each level that the evaluation of an operand
goes down is paid for by a level of nesting or by a bare condition. -/
theorem ReadAs.depthBounds {level : Level} {tokens : List Token} {expr : Expr}
    (reading : ReadAs level tokens expr) : DepthBounds expr := by
  induction reading with
  | integer token _ | identifier token _ =>
    exact ⟨Nat.le_refl 1, Nat.le_refl 1, Nat.le_refl 0, fun _ => .inl rfl, fun _ => .inl rfl⟩
  | operand _ _ _ _ inductionHypothesis => exact inductionHypothesis
  | unconditional _ _ _ inductionHypothesis => exact inductionHypothesis
  | group _ _ _ inner _ _ _ bounds =>
    obtain ⟨_, operand, bare, _, _⟩ := bounds
    constructor <;>
      simp only [Expr.depth, Expr.operandDepth, Expr.nesting, Expr.nestingBelow,
        Expr.bareConditions, Expr.isOperation, Bool.toNat_false] <;> omega
  | operation op sign _ _ left right leftReading _ _ leftBounds rightBounds =>
    have chain := left.chainDepth_le
    have leftOperand := leftBounds.operandAlone (leftReading.not_isConditional (by simp))
    have leftBare := leftBounds.bareAlone (leftReading.not_isConditional (by simp))
    obtain ⟨_, operand, bare, _, _⟩ := rightBounds
    constructor <;>
      simp only [Expr.depth, Expr.operandDepth, Expr.nesting, Expr.nestingBelow,
        Expr.bareConditions, Expr.isOperation, Bool.toNat_true] <;> omega
  | conditional _ _ _ _ _ condition whenTrue whenFalse conditionReading _ _ _ _ conditionBounds
      trueBounds falseBounds =>
    -- The branches nest a level deeper, which pays for the evaluation of a condition that is a
    -- numeral or a name; any other condition has to pay by the levels that it nests itself.
    have atMostOne := condition.isOperation.toNat_le
    have operand := conditionBounds.operandAlone (conditionReading.not_isConditional (by simp))
    have bare := conditionBounds.bareAlone (conditionReading.not_isConditional (by simp))
    obtain ⟨_, trueOperand, trueBare, _, _⟩ := trueBounds
    obtain ⟨_, falseOperand, falseBare, _, _⟩ := falseBounds
    refine ⟨?_, ?_, ?_, Bool.noConfusion, Bool.noConfusion⟩ <;>
      simp only [Expr.depth, Expr.operandDepth, Expr.nesting, Expr.nestingBelow,
        Expr.bareConditions] <;> omega

/-! ### A staircase of bare conditions -/

/-- A text of conditionals, each of which starts the condition of the one around it. -/
def staircase : Nat → String
  | 0 => "1"
  | steps + 1 => "(" ++ staircase steps ++ "\n)+1?2:3"

/-- The tree of a staircase, without spans. -/
def stairs : Nat → Expr
  | 0 => .literal 1 none
  | steps + 1 =>
    .conditional (.binary (.group (stairs steps) none) .plus (.literal 1 none) none)
      (.literal 2 none) (.literal 3 none) none

@[simp] theorem nestingBelow_stairs (steps : Nat) : (stairs steps).nestingBelow = steps := by
  induction steps with
  | zero => rfl
  | succ steps inductionHypothesis =>
    simp only [stairs, Expr.nestingBelow, inductionHypothesis]
    omega

/-- The tokens of what stands behind the group in each step of a staircase. -/
def stepTokens : List Token :=
  [⟨.operator .plus, "+", ⟨"", 1, 1, 0⟩⟩, ⟨.integer, "1", ⟨"", 1, 2, 1⟩⟩,
    ⟨.question, "?", ⟨"", 1, 3, 2⟩⟩, ⟨.integer, "2", ⟨"", 1, 4, 3⟩⟩,
    ⟨.colon, ":", ⟨"", 1, 5, 4⟩⟩, ⟨.integer, "3", ⟨"", 1, 6, 5⟩⟩]

theorem spells_stepTokens : Spells "" [] "+1?2:3".toList stepTokens := by
  have scanned : tokenize "" "+1?2:3" = .ok (stepTokens ++ [⟨.endOfInput, "", ⟨"", 1, 7, 6⟩⟩]) := by
    decide +kernel
  exact (spells_iff _ _ _).2 ⟨_, textTape_of_tokenize scanned⟩

/-- A group with these tokens behind it is a step around it. -/
theorem ReadAs.exists_step {tokens : List Token} {group inner : Expr}
    (reading : ReadAs .primary tokens group) (alike : group.Alike (.group inner none)) :
    ∃ expr, ReadAs .conditional (tokens ++ stepTokens) expr ∧
      expr.Alike (.conditional (.binary (.group inner none) .plus (.literal 1 none) none)
        (.literal 2 none) (.literal 3 none) none) := by
  have condition := ReadAs.operation .plus ⟨.operator .plus, "+", ⟨"", 1, 1, 0⟩⟩ tokens _ group _
    (reading.ofPrimary _) rfl ((ReadAs.integer ⟨.integer, "1", ⟨"", 1, 2, 1⟩⟩ rfl).ofPrimary _)
  have whole := ReadAs.conditional ⟨.question, "?", ⟨"", 1, 3, 2⟩⟩ ⟨.colon, ":", ⟨"", 1, 5, 4⟩⟩
    _ _ _ _ _ _ (condition.loosen (by decide)) rfl
    ((ReadAs.integer ⟨.integer, "2", ⟨"", 1, 4, 3⟩⟩ rfl).ofPrimary _) rfl
    ((ReadAs.integer ⟨.integer, "3", ⟨"", 1, 6, 5⟩⟩ rfl).ofPrimary _)
  refine ⟨_, by simpa [stepTokens] using whole, ?_⟩
  simp only [Expr.Alike, Expr.withoutSpans] at alike ⊢
  rw [alike]
  rfl

/-- A staircase of fewer steps than there may be levels is parsed as its tree. -/
theorem parseText_staircase (filename : String) (steps : Nat) (few : steps < nestingLimit) :
    ∃ expr, parseText filename (staircase steps) = .ok expr ∧ expr.Alike (stairs steps) := by
  induction steps with
  | zero =>
    have parsed : parseText "" "1" = .ok (.literal 1 (some (.single ⟨"", 1, 1, 0⟩))) := rfl
    exact parseText_rename parsed filename
  | succ steps inductionHypothesis =>
    obtain ⟨inner, parsed, alike⟩ := inductionHypothesis (Nat.lt_of_succ_lt few)
    obtain ⟨moved, sameWords, behind⟩ :=
      spells_stepTokens.embed ('(' :: ((staircase steps).toList ++ ['\n', ')'])) [] (by simp)
        (.nil filename _)
    obtain ⟨tokens, group, reading, groupAlike, spelled⟩ :=
      exists_group [] parsed behind
    have sameGroup : group.Alike (.group (stairs steps) none) :=
      groupAlike.trans (congrArg (Expr.group · none) alike)
    obtain ⟨step, stepReading, stepAlike⟩ := reading.exists_step sameGroup
    have same : SameWords (tokens ++ moved) (tokens ++ stepTokens) := by
      rw [SameWords, List.map_append, List.map_append, sameWords]
    obtain ⟨whole, wholeReading, wholeAlike⟩ := stepReading.ofWords same
    have wholeStairs : whole.Alike (stairs (steps + 1)) := wholeAlike.trans stepAlike
    refine ⟨whole, ?_, wholeStairs⟩
    refine Spells.exists_parseText (by simpa [staircase] using spelled) wholeReading ?_
    rw [wholeStairs.nesting_eq, Expr.nesting, nestingBelow_stairs]
    exact few

theorem unchain_of_stairs {steps : Nat} {expr : Expr} (alike : expr.Alike (stairs steps))
    (links : List Expr.Link) : expr.unchain links = (expr, links) := by
  cases steps with
  | zero =>
    obtain ⟨span, rfl⟩ := alike.exists_literal
    rfl
  | succ steps =>
    obtain ⟨_, _, _, _, rfl, _⟩ := alike.exists_conditional
    rfl

/-- A staircase has a value if there is room for an evaluation at its foot and two on each of its
steps, and none if there is not. -/
theorem evaluateWithin_stairs (bindings : Option Bindings) {steps : Nat} {expr : Expr}
    (alike : expr.Alike (stairs steps)) (room : Nat) :
    expr.evaluateWithin bindings room =
      if 2 * steps + 1 ≤ room then .ok (if steps = 0 then 1 else 2) else .error .tooDeep := by
  induction steps generalizing expr room with
  | zero =>
    obtain ⟨span, rfl⟩ := alike.exists_literal
    cases room with
    | zero => rfl
    | succ room => exact (if_pos (Nat.le_add_left 1 room)).symm
  | succ steps inductionHypothesis =>
    obtain ⟨_, _, _, _, rfl, conditionAlike, trueAlike, falseAlike⟩ := alike.exists_conditional
    obtain ⟨_, _, _, rfl, groupAlike, oneAlike⟩ := conditionAlike.exists_binary
    obtain ⟨inner, _, rfl, innerAlike⟩ := groupAlike.exists_group
    obtain ⟨_, rfl⟩ := oneAlike.exists_literal
    obtain ⟨_, rfl⟩ := trueAlike.exists_literal
    rw [if_neg (Nat.succ_ne_zero steps)]
    match room with
    | 0 => rfl
    | 1 => rfl
    | room + 2 =>
      have foot := inductionHypothesis innerAlike room
      rw [Expr.evaluateWithin] at foot
      simp only [Expr.evaluateWithin, Expr.evaluateByWithin, Expr.ungroup, Expr.unchain,
        unchain_of_stairs innerAlike, foot]
      by_cases enough : 2 * steps + 1 ≤ room
      · have more : 2 * (steps + 1) + 1 ≤ room + 2 := by omega
        obtain ⟨room, rfl⟩ := Nat.exists_eq_add_of_le' (Nat.le_of_add_left_le enough)
        rw [if_pos enough, if_pos more]
        by_cases atFoot : steps = 0
        · rw [if_pos atFoot]
          rfl
        · rw [if_neg atFoot]
          rfl
      · have less : ¬ 2 * (steps + 1) + 1 ≤ room + 2 := by omega
        rw [if_neg enough, if_neg less]
        rfl

theorem evaluate_stairs (bindings : Option Bindings) {steps : Nat} {expr : Expr}
    (alike : expr.Alike (stairs steps)) :
    expr.evaluate bindings = .ok (if steps = 0 then 1 else 2) := by
  have enough := Expr.evaluateWithin_eq bindings (Nat.le_add_right expr.depth (2 * steps + 1))
  rw [evaluateWithin_stairs bindings alike, if_pos (Nat.le_add_left _ _)] at enough
  cases value : expr.evaluate bindings with
  | error cause =>
    rw [value] at enough
    cases enough
  | ok result =>
    rw [value] at enough
    injection enough with same
    rw [same]

/-! ### The depth of what is parsed -/

/-- The evaluation of a parsed text never has more evaluations under way at once than the text may
nest levels and bare conditions come on top of that, and there are fewer of these than levels. So
a bound as high as that makes no difference, to no outcome. -/
theorem evaluateWithin_of_parseText {filename source : String} {expr : Expr}
    (parsed : parseText filename source = .ok expr) (bindings : Option Bindings) :
    expr.bareConditions < nestingLimit ∧
      ∀ room, nestingLimit + expr.bareConditions ≤ room →
        expr.evaluateWithin bindings room = (expr.evaluate bindings).mapError .failed := by
  obtain ⟨tokens, last, _, reading, shallow⟩ := (parseText_eq_ok_iff _ _ _).1 parsed
  have bounds := reading.depthBounds
  refine ⟨Nat.lt_of_lt_of_le (Nat.lt_succ_of_le bounds.bare) shallow, fun room enough => ?_⟩
  exact Expr.evaluateWithin_eq bindings
    (bounds.whole.trans ((Nat.add_le_add_right shallow _).trans enough))

/-- A staircase with as many steps as can be parsed comes up to the bound and not to one less. -/
theorem staircase_attains_bound :
    ∃ expr, parseText inputName (staircase 255) = .ok expr ∧
      expr.evaluateWithin none 511 = (expr.evaluate none).mapError .failed ∧
      expr.evaluateWithin none 510 = .error .tooDeep := by
  obtain ⟨expr, parsed, alike⟩ := parseText_staircase inputName 255 (by decide)
  obtain ⟨few, bounded⟩ := evaluateWithin_of_parseText parsed none
  refine ⟨expr, parsed, bounded 511 ?_, evaluateWithin_stairs none alike 510⟩
  rw [nestingLimit] at few ⊢
  omega

/-- A staircase of half as many steps has a value, but more evaluations are under way at once for
it than the text may nest levels. -/
theorem staircase_exceeds_nestingLimit :
    ∃ expr, parseText inputName (staircase 128) = .ok expr ∧
      expr.evaluateWithin (some .empty) nestingLimit = .error .tooDeep ∧
      expr.evaluate (some .empty) = .ok 2 := by
  obtain ⟨expr, parsed, alike⟩ := parseText_staircase inputName 128 (by decide)
  exact ⟨expr, parsed, evaluateWithin_stairs _ alike nestingLimit, evaluate_stairs _ alike⟩

end IntExpr
