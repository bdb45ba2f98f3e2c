/-
This file proves that the parser reads all that the grammar allows. Whatever is read as an
expression by the grammar is what the parser on a tape returns, if it may nest that deep and what
comes next on the tape ends the expression; and wherever reading gets stuck by the grammar, the
parser gives up with the same cause and nothing more taken off the tape.

The difficulty is the loop over operators, which builds a chain from the left while the grammar
takes it apart from the right. So an expression of a tight level is not followed to its end but
to a place inside the loop, at which it is what has been gathered so far and what comes next may
still be an operator that binds as loosely as the loop allows.
-/

import IntExpr.Proofs.Stuck
import IntExpr.Proofs.TapeParser

namespace IntExpr

open TapeParse

/-! ### Inside the loop over operators -/

/-- From a tape on, the parser of a level gets to a place inside its loop at which it has
gathered an expression and another tape is left. The bound of the loop is no obstacle. -/
def Gathers (depth : Nat) (level : Level) (tape : Tape) (expr : Expr) (after : Tape) : Prop :=
  ∃ first middle, parser.operand (expression depth .conditional) tape = .ok first middle ∧
    ∀ bound, middle.tokens.length < bound → ∃ remaining, after.tokens.length < remaining ∧
      parser.operators (expression depth) level bound first middle =
        parser.operators (expression depth) level remaining expr after

namespace Gathers

variable {depth : Nat} {level : Level} {tape after : Tape} {expr : Expr}

theorem ofOperand (ran : parser.operand (expression depth .conditional) tape = .ok expr after) :
    Gathers depth level tape expr after :=
  ⟨expr, after, ran, fun bound enough => ⟨bound, enough, rfl⟩⟩

/-- One more operator with its right operand. -/
theorem step {sign : Token} {op : Operator} {right : Expr} {final : Tape}
    (gathers : Gathers depth level tape expr after) (next : after.next = .ok sign)
    (signType : sign.type = .operator op) (admitted : level.admits op.tier = true)
    (ran : expression depth op.tier.tighter after.rest = .ok right final)
    (shorter : final.tokens.length < after.tokens.length) :
    Gathers depth level tape (.binary expr op right (Span.cover expr.span right.span)) final := by
  obtain ⟨first, middle, started, continued⟩ := gathers
  refine ⟨first, middle, started, fun bound enough => ?_⟩
  obtain ⟨_, left, same⟩ := continued bound enough
  obtain ⟨extra, rfl⟩ := Nat.exists_eq_add_of_lt left
  refine ⟨after.tokens.length + extra, Nat.lt_add_right extra shorter, ?_⟩
  rw [same, operators_of_operator _ _ next signType admitted, bind_of_ok ran]

theorem expression_eq (gathers : Gathers depth level tape expr after) :
    ∃ remaining, after.tokens.length < remaining ∧ expression (depth + 1) level tape =
      (parser.operators (expression depth) level remaining expr >>=
        parser.suffix (expression depth (.atLeast .logical)) level) after := by
  obtain ⟨first, middle, started, continued⟩ := gathers
  obtain ⟨remaining, left, same⟩ := continued (middle.tokens.length + 1) (Nat.lt_succ_self _)
  refine ⟨remaining, left, ?_⟩
  rw [expression_succ, bind_of_ok started, behindOperand]
  cases ran : parser.operators (expression depth) level remaining expr after with
  | ok final last => rw [bind_of_ok ran, bind_of_ok (same.trans ran)]
  | error cause last => rw [bind_of_error ran, bind_of_error (same.trans ran)]

/-- The loop ends before a token that is no operator of the level. -/
theorem finish {token : Token} (gathers : Gathers depth level tape expr after)
    (next : after.next = .ok token)
    (stop : ∀ op, token.type = .operator op → level.admits op.tier = false) :
    expression (depth + 1) level tape =
      parser.suffix (expression depth (.atLeast .logical)) level expr after := by
  obtain ⟨_, left, same⟩ := gathers.expression_eq
  obtain ⟨extra, rfl⟩ := Nat.exists_eq_add_of_lt left
  rw [same, bind_of_ok (operators_of_stop _ _ next stop)]

/-- The loop fails where a right operand does. -/
theorem fail {sign : Token} {op : Operator} {cause : ParseError} {final : Tape}
    (gathers : Gathers depth level tape expr after) (next : after.next = .ok sign)
    (signType : sign.type = .operator op) (admitted : level.admits op.tier = true)
    (ran : expression depth op.tier.tighter after.rest = .error cause final) :
    expression (depth + 1) level tape = .error cause final := by
  obtain ⟨_, left, same⟩ := gathers.expression_eq
  obtain ⟨extra, rfl⟩ := Nat.exists_eq_add_of_lt left
  rw [same, bind_of_error]
  rw [operators_of_operator _ _ next signType admitted, bind_of_error ran]

end Gathers

/-! ### Reading what the grammar reads -/

/-- Wherever a row of tokens stands on a tape, the parser of any level as loose gathers the
expression, if what comes next is no operator that belongs inside of it. -/
def Gathered (level : Level) (tokens : List Token) (expr : Expr) : Prop :=
  ∀ depth outer tape token, expr.nestingBelow ≤ depth → outer.strength ≤ level.strength →
    tape.next = .ok token →
    (∀ op, token.type = .operator op → op.tier.strength ≤ level.strength) →
    Gathers depth outer (tape.prepend tokens) expr tape

/-- Wherever a row of tokens stands on a tape, the parser of the level returns the expression, if
what comes next ends it. -/
def Complete (level : Level) (tokens : List Token) (expr : Expr) : Prop :=
  ∀ depth tape token, expr.nesting ≤ depth → tape.next = .ok token →
    level.StopsBefore expr token.type →
    expression depth level (tape.prepend tokens) = .ok expr tape

section

variable {level : Level} {tokens : List Token} {expr : Expr}

theorem ReadAs.not_isConditional (reading : ReadAs level tokens expr)
    (tight : level ≠ .conditional) : expr.isConditional = false := by
  induction reading with
  | operand tier _ _ _ inductionHypothesis => exact inductionHypothesis tier.tighter_ne_conditional
  | unconditional | conditional => exact absurd rfl tight
  | _ => rfl

theorem Level.StopsBefore.no_operator {type : TokenType}
    (stops : Level.conditional.StopsBefore expr type) (op : Operator) : type ≠ .operator op := by
  intro same
  exact Bool.noConfusion (stops.1 op same)

theorem Gathered.complete (gathered : Gathered level tokens expr) (tight : level ≠ .conditional) :
    Complete level tokens expr := by
  intro depth tape token shallow next stops
  obtain ⟨extra, rfl⟩ := Nat.exists_eq_add_of_lt shallow
  have gathers := gathered _ level tape token (Nat.le_add_right _ extra) (Nat.le_refl _) next
    fun op type => Nat.le_of_lt ((level.admits_eq_false_iff op.tier).1 (stops.1 op type))
  rw [gathers.finish next stops.1, suffix_of_other _ next fun loose => absurd loose tight]

theorem Gathered.loosen {loose : Level} (gathered : Gathered level tokens expr)
    (looser : loose.strength ≤ level.strength) : Gathered loose tokens expr :=
  fun depth outer tape token shallow outerLooser next within =>
    gathered depth outer tape token shallow (Nat.le_trans outerLooser looser) next
      fun op type => Nat.le_trans (within op type) looser

theorem Complete.group {opening closing : Token} (complete : Complete .conditional tokens expr)
    (openingType : opening.type = .leftParen) (closingType : closing.type = .rightParen) :
    Gathered .primary (opening :: tokens ++ [closing])
      (.group expr (some ⟨opening.location, closing.location⟩)) := by
  intro depth outer tape token shallow _ next _
  refine .ofOperand ?_
  rw [List.cons_append, operand_of_leftParen _ (Tape.next_prepend_cons _ _ _) openingType,
    Tape.rest_prepend_cons, Tape.prepend_append,
    bind_of_ok (complete depth _ closing shallow rfl ?_),
    bind_of_ok (expect_of_next rfl closingType)]
  · rfl
  · rw [closingType]
    exact Level.stopsBefore_of_other (by simp) (by simp)

theorem Gathered.operation {op : Operator} {sign : Token} {leftTokens rightTokens : List Token}
    {left right : Expr} (leftGathered : Gathered (.atLeast op.tier) leftTokens left)
    (signType : sign.type = .operator op)
    (rightComplete : Complete op.tier.tighter rightTokens right) :
    Gathered (.atLeast op.tier) (leftTokens ++ sign :: rightTokens)
      (.binary left op right (Span.cover left.span right.span)) := by
  intro depth outer tape token shallow looser next within
  obtain ⟨leftShallow, rightShallow⟩ := Nat.max_le.1 shallow
  rw [Tape.prepend_append]
  have gathers := leftGathered depth outer (tape.prepend (sign :: rightTokens)) sign leftShallow
    looser rfl fun other same => by rw [signType] at same; cases same; exact Nat.le_refl _
  refine gathers.step rfl signType ((outer.admits_iff op.tier).2 looser)
    (rightComplete depth tape token rightShallow next ⟨fun other same => ?_, fun loose => ?_⟩) ?_
  · rw [Level.admits_eq_false_iff, Tier.tighter_strength]
    exact Nat.lt_succ_of_le (within other same)
  · exact absurd loose op.tier.tighter_ne_conditional
  · simp only [Tape.prepend, List.length_append, List.length_cons]
    omega

theorem Gathered.unconditional (gathered : Gathered (.atLeast .logical) tokens expr)
    (plain : expr.isConditional = false) : Complete .conditional tokens expr := by
  intro depth tape token shallow next stops
  obtain ⟨extra, rfl⟩ := Nat.exists_eq_add_of_lt shallow
  have gathers := gathered _ .conditional tape token (Nat.le_add_right _ extra) (Nat.zero_le _) next
    fun op type => absurd type (stops.no_operator op)
  rw [gathers.finish next stops.1, suffix_of_other _ next fun _ type => ?_]
  rw [stops.2 rfl type] at plain
  cases plain

end

section

variable {questionMark colon : Token} {conditionTokens trueTokens falseTokens : List Token}
  {condition whenTrue whenFalse : Expr}

/-- Behind a condition and a question mark the parser goes on with the branches. -/
theorem Gathered.question
    (conditionGathered : Gathered (.atLeast .logical) conditionTokens condition)
    (questionType : questionMark.type = .question) {depth : Nat}
    (shallow : condition.nestingBelow ≤ depth) (more : List Token) (tape : Tape) :
    expression (depth + 1) .conditional
        (tape.prepend (conditionTokens ++ questionMark :: more)) =
      (do
        let whenTrue ← expression depth (.atLeast .logical)
        let _ ← parser.expect .colon
        let whenFalse ← expression depth (.atLeast .logical)
        return Expr.conditional condition whenTrue whenFalse
          (Span.cover condition.span whenFalse.span) : TapeParse Expr) (tape.prepend more) := by
  have noOperator : ∀ op, questionMark.type ≠ .operator op := by simp [questionType]
  have gathers := conditionGathered depth .conditional (tape.prepend (questionMark :: more))
    questionMark shallow (Nat.zero_le _) rfl fun op same => absurd same (noOperator op)
  rw [Tape.prepend_append, gathers.finish rfl fun op same => absurd same (noOperator op),
    suffix_of_question _ rfl questionType]
  rfl

theorem Complete.whenTrue_colon (trueComplete : Complete (.atLeast .logical) trueTokens whenTrue)
    (colonType : colon.type = .colon) {depth : Nat} (shallow : whenTrue.nesting ≤ depth)
    (more : List Token) (tape : Tape) :
    expression depth (.atLeast .logical) (tape.prepend (trueTokens ++ colon :: more)) =
      .ok whenTrue (tape.prepend (colon :: more)) := by
  rw [Tape.prepend_append]
  refine trueComplete depth _ colon shallow rfl ?_
  rw [colonType]
  exact Level.stopsBefore_of_other (by simp) (by simp)

theorem Complete.conditional
    (conditionGathered : Gathered (.atLeast .logical) conditionTokens condition)
    (questionType : questionMark.type = .question)
    (trueComplete : Complete (.atLeast .logical) trueTokens whenTrue)
    (colonType : colon.type = .colon)
    (falseComplete : Complete (.atLeast .logical) falseTokens whenFalse) :
    Complete .conditional (conditionTokens ++ questionMark :: (trueTokens ++ colon :: falseTokens))
      (.conditional condition whenTrue whenFalse
        (Span.cover condition.span whenFalse.span)) := by
  intro depth tape token shallow next stops
  obtain ⟨extra, rfl⟩ := Nat.exists_eq_add_of_lt shallow
  obtain ⟨conditionShallow, branchesShallow⟩ := Nat.max_le.1 (Nat.le_of_succ_le_succ shallow)
  obtain ⟨trueShallow, falseShallow⟩ := Nat.max_le.1 branchesShallow
  rw [conditionGathered.question questionType conditionShallow,
    bind_of_ok (trueComplete.whenTrue_colon colonType trueShallow _ _),
    bind_of_ok (expect_of_next rfl colonType)]
  have falseStops : (Level.atLeast .logical).StopsBefore whenFalse token.type :=
    ⟨fun op type => absurd type (stops.no_operator op), fun loose => Level.noConfusion loose⟩
  show (expression _ _ >>= _) (tape.prepend falseTokens) = _
  rw [bind_of_ok (falseComplete _ tape token falseShallow next falseStops)]
  rfl

end

theorem ReadAs.gathered_and_complete {level : Level} {tokens : List Token} {expr : Expr}
    (reading : ReadAs level tokens expr) :
    (level ≠ .conditional → Gathered level tokens expr) ∧ Complete level tokens expr := by
  induction reading with
  | integer token type =>
    have gathered : Gathered .primary [token]
        (.literal token.number (some (.single token.location))) :=
      fun depth outer tape _ _ _ _ _ => .ofOperand (operand_of_integer _ rfl type)
    exact ⟨fun _ => gathered, gathered.complete (by decide)⟩
  | identifier token type =>
    have gathered : Gathered .primary [token]
        (.identifier token.lexeme (some (.single token.location))) :=
      fun depth outer tape _ _ _ _ _ => .ofOperand (operand_of_identifier _ rfl type)
    exact ⟨fun _ => gathered, gathered.complete (by decide)⟩
  | group opening closing tokens inner openingType _ closingType inductionHypothesis =>
    have gathered := inductionHypothesis.2.group openingType closingType
    exact ⟨fun _ => gathered, gathered.complete (by decide)⟩
  | operand tier tokens expr _ inductionHypothesis =>
    have tight := inductionHypothesis.1 tier.tighter_ne_conditional
    have gathered : Gathered (.atLeast tier) tokens expr :=
      tight.loosen (by rw [tier.tighter_strength]; exact Nat.le_succ _)
    exact ⟨fun _ => gathered, gathered.complete Level.noConfusion⟩
  | operation op sign _ _ _ _ _ signType _ leftHypothesis rightHypothesis =>
    have gathered := (leftHypothesis.1 Level.noConfusion).operation signType rightHypothesis.2
    exact ⟨fun _ => gathered, gathered.complete Level.noConfusion⟩
  | unconditional tokens expr reading inductionHypothesis =>
    exact ⟨absurd rfl, (inductionHypothesis.1 Level.noConfusion).unconditional
      (reading.not_isConditional Level.noConfusion)⟩
  | conditional question colon _ _ _ _ _ _ _ questionType _ colonType _ conditionHypothesis
      trueHypothesis falseHypothesis =>
    exact ⟨absurd rfl, .conditional (conditionHypothesis.1 Level.noConfusion) questionType
      trueHypothesis.2 colonType falseHypothesis.2⟩

theorem ReadAs.gathered {level : Level} {tokens : List Token} {expr : Expr}
    (reading : ReadAs level tokens expr) (tight : level ≠ .conditional) :
    Gathered level tokens expr :=
  reading.gathered_and_complete.1 tight

theorem ReadAs.complete {level : Level} {tokens : List Token} {expr : Expr}
    (reading : ReadAs level tokens expr) : Complete level tokens expr :=
  reading.gathered_and_complete.2

/-- What the grammar reads is what the parser returns. -/
theorem ReadAs.expression_eq {level : Level} {tokens : List Token} {expr : Expr}
    (reading : ReadAs level tokens expr) {depth : Nat} (shallow : expr.nesting ≤ depth)
    {tape : Tape} {token : Token} (next : tape.next = .ok token)
    (stops : level.StopsBefore expr token.type) :
    expression depth level (tape.prepend tokens) = .ok expr tape :=
  reading.complete depth tape token shallow next stops

/-! ### Failing where the grammar is stuck -/

/-- A failure inside an expression that is open is one of the expression that opens it. -/
theorem Opens.expression_eq {depth : Nat} {level inner : Level} {context : List Token}
    (opens : Opens depth level context inner) {tape after : Tape} {cause : ParseError}
    (failed : expression depth inner tape = .error cause after) :
    expression (depth + 1) level (tape.prepend context) = .error cause after := by
  cases opens with
  | group _ opening openingType =>
    rw [expression_succ, bind_of_error]
    rw [operand_of_leftParen _ (Tape.next_prepend_cons _ _ _) openingType, Tape.rest_prepend_cons,
      Tape.prepend_nil, bind_of_error failed]
  | rightOperand _ op sign leftTokens left leftReading leftShallow signType admitted =>
    have gathered := leftReading.gathered Level.noConfusion
    have gathers := gathered depth level (tape.prepend [sign]) sign leftShallow
      ((level.admits_iff op.tier).1 admitted) rfl
      fun other same => by rw [signType] at same; cases same; exact Nat.le_refl _
    rw [Tape.prepend_append]
    exact gathers.fail rfl signType admitted failed
  | whenTrue question conditionTokens condition conditionReading conditionShallow questionType =>
    have gathered := conditionReading.gathered Level.noConfusion
    rw [gathered.question questionType conditionShallow, Tape.prepend_nil, bind_of_error failed]
  | whenFalse question colon conditionTokens trueTokens condition whenTrue conditionReading
      conditionShallow questionType trueReading trueShallow colonType =>
    have gathered := conditionReading.gathered Level.noConfusion
    rw [gathered.question questionType conditionShallow,
      bind_of_ok (trueReading.complete.whenTrue_colon colonType trueShallow _ _),
      bind_of_ok (expect_of_next rfl colonType)]
    show (expression depth _ >>= _) tape = _
    rw [bind_of_error failed]

theorem Halts.expression_eq {depth : Nat} {level : Level} {before : List Token}
    {cause : GrammarError} (halts : Halts depth level before cause) {tape : Tape}
    (next : tape.next = .ok cause.found) :
    expression depth level (tape.prepend before) = .error (.grammar cause) tape := by
  cases halts with
  | tooDeep => exact expression_zero next
  | noOperand depth _ found refused =>
    change tape.next = .ok found at next
    rw [Tape.prepend_nil, expression_succ, bind_of_error (operand_of_other _ next refused)]
  | unclosed depth _ opening tokens inner found openingType reading shallow stops refused =>
    change tape.next = .ok found at next
    rw [expression_succ, bind_of_error]
    rw [operand_of_leftParen _ (Tape.next_prepend_cons _ _ _) openingType, Tape.rest_prepend_cons,
      bind_of_ok (reading.expression_eq shallow next stops),
      bind_of_error (expect_of_other next refused)]
  | noColon depth question conditionTokens trueTokens condition whenTrue found conditionReading
      conditionShallow questionType trueReading trueShallow stops refused =>
    change tape.next = .ok found at next
    have gathered := conditionReading.gathered Level.noConfusion
    rw [gathered.question questionType conditionShallow,
      bind_of_ok (trueReading.expression_eq trueShallow next stops),
      bind_of_error (expect_of_other next refused)]

/-- Where the grammar is stuck the parser gives up, for the same cause. -/
theorem Stuck.expression_eq {depth : Nat} {level : Level} {before : List Token}
    {cause : GrammarError} (stuck : Stuck depth level before cause) {tape : Tape}
    (next : tape.next = .ok cause.found) :
    expression depth level (tape.prepend before) = .error (.grammar cause) tape := by
  induction stuck with
  | here halts => exact halts.expression_eq next
  | inside opens stuck inductionHypothesis =>
    rw [Tape.prepend_append]
    exact opens.expression_eq (inductionHypothesis next)

end IntExpr
