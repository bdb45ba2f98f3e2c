/-
This file proves that the parser does nothing that the grammar does not allow. Whatever step of
the parser is run on a tape, it takes some tokens off the tape, and these are an expression if it
succeeds and a row behind which the grammar is stuck if it gives up; or it asks for a token where
there is only a fault in scanning.

The loop over operators keeps an expression of some tight level, and no operator that comes next
binds tighter than that level; so the next operator can always take what has been gathered as its
left operand.
-/

import IntExpr.Proofs.Stuck
import IntExpr.Proofs.TapeParser

namespace IntExpr

open TapeParse

/-! ### What a step can come to -/

/-- What a step comes to on a tape. It succeeds behind some tokens, it gives up behind some tokens
at the one that comes next, or it asks for what could not be scanned. -/
inductive Outcome {Result : Type} (Good : List Token → Result → Tape → Prop)
    (Bad : List Token → GrammarError → Prop) (tape : Tape) :
    EStateM.Result ParseError Tape Result → Prop
  | done (taken : List Token) (result : Result) (after : Tape)
      (split : tape = after.prepend taken) (good : Good taken result after) :
    Outcome Good Bad tape (.ok result after)
  | fault (taken : List Token) (cause : GrammarError) (after : Tape)
      (split : tape = after.prepend taken) (next : after.next = .ok cause.found)
      (bad : Bad taken cause) :
    Outcome Good Bad tape (.error (.grammar cause) after)
  | unscanned (cause : ScanError) (ending : tape.ending = .error cause) :
    Outcome Good Bad tape (.error (.scan cause) ⟨[], .error cause⟩)

namespace Outcome

section

variable {First Second : Type} {Good : List Token → Second → Tape → Prop}
  {Bad : List Token → GrammarError → Prop} {tape after : Tape}

/-- What a step comes to behind some tokens, seen from in front of them. -/
theorem prepend {taken : List Token} {result : EStateM.Result ParseError Tape Second}
    (split : tape = after.prepend taken)
    (outcome : Outcome (fun more => Good (taken ++ more)) (fun more => Bad (taken ++ more)) after
      result) :
    Outcome Good Bad tape result := by
  subst split
  cases outcome with
  | done more result final split good =>
    exact .done (taken ++ more) result final (by rw [Tape.prepend_append, ← split]) good
  | fault more cause final split next bad =>
    exact .fault (taken ++ more) cause final (by rw [Tape.prepend_append, ← split]) next bad
  | unscanned cause ending => exact .unscanned cause ending

/-- Two steps one after the other. -/
theorem bind {Between : List Token → First → Tape → Prop} {step : TapeParse First}
    {others : First → TapeParse Second} (outcome : Outcome Between Bad tape (step tape))
    (continued : ∀ taken result after, tape = after.prepend taken → Between taken result after →
      Outcome (fun more => Good (taken ++ more)) (fun more => Bad (taken ++ more)) after
        (others result after)) :
    Outcome Good Bad tape ((step >>= others) tape) := by
  cases ran : step tape with
  | ok result after =>
    rw [bind_of_ok ran]
    rw [ran] at outcome
    obtain ⟨taken, _, _, split, good⟩ := outcome
    exact prepend split (continued taken result after split good)
  | error cause after =>
    rw [bind_of_error ran]
    rw [ran] at outcome
    cases outcome with
    | fault taken cause after split next bad => exact .fault taken cause after split next bad
    | unscanned cause ending => exact .unscanned cause ending

/-- A fault inside of something is a fault of the whole. -/
theorem blame {Outer : List Token → GrammarError → Prop}
    {result : EStateM.Result ParseError Tape Second} (outcome : Outcome Good Bad tape result)
    (bad : ∀ taken cause, Bad taken cause → Outer taken cause) :
    Outcome Good Outer tape result := by
  cases outcome with
  | done taken result after split good => exact .done taken result after split good
  | fault taken cause after split next isBad =>
    exact .fault taken cause after split next (bad _ _ isBad)
  | unscanned cause ending => exact .unscanned cause ending

/-- A step that looks at what comes next first. -/
theorem ofNext {step : TapeParse Second}
    (asks : ∀ cause, tape = ⟨[], .error cause⟩ → step tape = .error (.scan cause) tape)
    (continued : ∀ token, tape.next = .ok token → Outcome Good Bad tape (step tape)) :
    Outcome Good Bad tape (step tape) := by
  obtain ⟨token, next⟩ | ⟨cause, fails⟩ := tape.next_cases
  · exact continued token next
  · rw [asks cause fails]
    subst fails
    exact .unscanned cause rfl

end

end Outcome

/-! ### Operands -/

/-- An expression of a level that may nest to some depth, with what comes next ending it. -/
structure Returned (depth : Nat) (level : Level) (tokens : List Token) (expr : Expr)
    (after : Tape) : Prop where
  reading : ReadAs level tokens expr
  shallow : expr.nesting ≤ depth
  stopped : ∃ token, after.next = .ok token ∧ level.StopsBefore expr token.type

/-- What parsing an expression has to come to. -/
def Sound (depth : Nat) (level : Level) : Prop :=
  ∀ tape : Tape, tape.Closed →
    Outcome (Returned depth level) (Stuck depth level) tape (expression depth level tape)

section

variable {depth : Nat} (level : Level) {tape : Tape} (closed : tape.Closed)

include closed

/-- Behind an opening parenthesis. -/
theorem outcome_group (inner : Sound depth .conditional) (opening : Token)
    (openingType : opening.type = .leftParen) :
    Outcome
      (fun more expr _ => ReadAs .primary (opening :: more) expr ∧ expr.nestingBelow ≤ depth)
      (fun more => Stuck (depth + 1) level (opening :: more)) tape
      ((do
        let expr ← expression depth .conditional
        let closing ← parser.expect .rightParen
        return Expr.group expr (some ⟨opening.location, closing.location⟩) : TapeParse Expr)
        tape) := by
  refine .bind ((inner tape closed).blame fun more cause stuck =>
    .inside (.group level opening openingType) stuck) ?_
  rintro taken expr after split ⟨reading, shallow, token, next, stops⟩
  by_cases fits : token.type = .rightParen
  · have closedAfter := closed.after split
    rw [bind_of_ok (expect_of_next next fits)]
    refine .done [token] _ _ (Tape.eq_prepend_of_next closedAfter next (by rw [fits]; decide))
      ⟨?_, shallow⟩
    exact .group opening token taken expr openingType reading fits
  · rw [bind_of_error (expect_of_other next fits)]
    refine .fault [] _ _ rfl next (.here ?_)
    rw [List.append_nil]
    exact .unclosed depth level opening taken expr token openingType reading shallow stops fits

/-- An operand is an expression of the tightest level. -/
theorem outcome_operand (inner : Sound depth .conditional) :
    Outcome (fun tokens expr _ => ReadAs .primary tokens expr ∧ expr.nestingBelow ≤ depth)
      (Stuck (depth + 1) level) tape (parser.operand (expression depth .conditional) tape) := by
  refine .ofNext (fun cause fails => ?_) fun token next => ?_
  · exact operand_of_fault _ (by rw [fails]; rfl)
  · have split := fun more => Tape.eq_prepend_of_next closed next more
    by_cases starts : token.type ∈ operandStart
    · simp only [operandStart, List.mem_cons, List.not_mem_nil, or_false] at starts
      obtain isParen | isInteger | isIdentifier := starts
      · have taken := split (by rw [isParen]; decide)
        rw [operand_of_leftParen _ next isParen]
        exact .prepend taken
          (outcome_group level closed.rest inner token isParen)
      · rw [operand_of_integer _ next isInteger]
        exact .done [token] _ _ (split (by rw [isInteger]; decide))
          ⟨.integer token isInteger, Nat.zero_le _⟩
      · rw [operand_of_identifier _ next isIdentifier]
        exact .done [token] _ _ (split (by rw [isIdentifier]; decide))
          ⟨.identifier token isIdentifier, Nat.zero_le _⟩
    · rw [operand_of_other _ next starts]
      exact .fault [] _ _ rfl next (.here (.noOperand depth level token starts))

end

/-! ### The loop over operators -/

/-- The level of the operators in an expression of a level: a conditional has logical operators
around its question mark. -/
def Level.chain : Level → Level
  | conditional => .atLeast .logical
  | level => level

@[simp] theorem Level.chain_admits (level : Level) (tier : Tier) :
    level.chain.admits tier = level.admits tier := by
  cases level with
  | conditional => cases tier <;> rfl
  | _ => rfl

theorem Level.strength_le_chain (level : Level) : level.strength ≤ level.chain.strength := by
  cases level with
  | conditional => exact Nat.zero_le _
  | _ => exact Nat.le_refl _

/-- What has been gathered in the loop: an expression that any operator which comes next can take
as its left operand, if the operator belongs to the level. -/
structure Gathering (depth : Nat) (level tight : Level) (tokens : List Token) (expr : Expr)
    (tape : Tape) : Prop where
  reading : ReadAs tight tokens expr
  shallow : expr.nestingBelow ≤ depth
  within : level.chain.strength ≤ tight.strength
  noTighter : ∀ token op, tape.next = .ok token → token.type = .operator op →
    op.tier.strength ≤ tight.strength

/-- What the loop returns: an expression with no operator of the level behind it. -/
structure Chain (depth : Nat) (level : Level) (tokens : List Token) (expr : Expr)
    (after : Tape) : Prop where
  reading : ReadAs level.chain tokens expr
  shallow : expr.nestingBelow ≤ depth
  stopped : ∃ token, after.next = .ok token ∧
    ∀ op, token.type = .operator op → level.admits op.tier = false

theorem outcome_operators {depth : Nat} (level : Level)
    (inner : ∀ inside, Sound depth inside) (bound : Nat) {tight : Level} {tokens : List Token}
    {left : Expr} {tape : Tape} (enough : tape.tokens.length < bound) (closed : tape.Closed)
    (gathering : Gathering depth level tight tokens left tape) :
    Outcome (fun more => Chain depth level (tokens ++ more))
      (fun more => Stuck (depth + 1) level (tokens ++ more)) tape
      (parser.operators (expression depth) level bound left tape) := by
  induction bound generalizing tight tokens left tape with
  | zero => exact absurd enough (Nat.not_lt_zero _)
  | succ bound inductionHypothesis =>
    obtain ⟨reading, shallow, within, noTighter⟩ := gathering
    refine .ofNext (fun cause fails => ?_) fun token next => ?_
    · exact operators_of_fault _ _ (by rw [fails]; rfl)
    by_cases goesOn : ∃ op, token.type = .operator op ∧ level.admits op.tier = true
    · obtain ⟨op, type, admitted⟩ := goesOn
      -- Nothing tighter was left to come, so what has been gathered is a left operand.
      have leftReading : ReadAs (.atLeast op.tier) tokens left :=
        reading.loosen (noTighter token op next type)
      have taken := Tape.eq_prepend_of_next closed next (by rw [type]; exact TokenType.noConfusion)
      rw [operators_of_operator _ _ next type admitted]
      refine .prepend taken (.bind ((inner op.tier.tighter _ closed.rest).blame
        fun more cause stuck => ?_) ?_)
      · have whole := Stuck.inside (.rightOperand level op token tokens left leftReading shallow
          type admitted) stuck
        rwa [List.append_assoc] at whole
      · rintro rightTokens right after split ⟨rightReading, rightShallow, token', next', stops⟩
        have closedAfter := closed.rest.after split
        have shorter : after.tokens.length < bound := by
          rw [taken, split] at enough
          simp only [Tape.prepend, List.length_append, List.length_cons] at enough
          omega
        have chained := inductionHypothesis shorter closedAfter
          (Gathering.mk (.operation op token _ _ _ _ leftReading type rightReading)
            (Nat.max_le.2 ⟨shallow, rightShallow⟩)
            ((level.chain.admits_iff op.tier).1 (by rw [Level.chain_admits]; exact admitted))
            fun other op' same type' => ?_)
        · simpa only [List.append_assoc, List.cons_append, List.nil_append] using chained
        · -- The right operand ended here, so this operator binds no tighter than the last one.
          rw [next'] at same
          cases same
          have refused := (Level.admits_eq_false_iff _ _).1 (stops.1 op' type')
          rw [Tier.tighter_strength] at refused
          exact Nat.le_of_lt_succ refused
    · have stop : ∀ op, token.type = .operator op → level.admits op.tier = false :=
        fun op type => Bool.eq_false_iff.2 fun admitted => goesOn ⟨op, type, admitted⟩
      rw [operators_of_stop _ _ next stop]
      refine .done [] _ _ rfl ⟨?_, shallow, token, next, stop⟩
      rw [List.append_nil]
      exact reading.loosen within

/-! ### Conditionals and whole expressions -/

/-- Behind the question mark of a conditional. -/
theorem outcome_branches {depth : Nat} (branch : Sound depth (.atLeast .logical)) {tape : Tape}
    (closed : tape.Closed) {question : Token} {conditionTokens : List Token} {condition : Expr}
    (conditionReading : ReadAs (.atLeast .logical) conditionTokens condition)
    (conditionShallow : condition.nestingBelow ≤ depth)
    (questionType : question.type = .question) :
    Outcome (fun more => Returned (depth + 1) .conditional (conditionTokens ++ question :: more))
      (fun more => Stuck (depth + 1) .conditional (conditionTokens ++ question :: more)) tape
      ((do
        let whenTrue ← expression depth (.atLeast .logical)
        let _ ← parser.expect .colon
        let whenFalse ← expression depth (.atLeast .logical)
        return Expr.conditional condition whenTrue whenFalse
          (Span.cover condition.span whenFalse.span) : TapeParse Expr) tape) := by
  refine .bind ((branch tape closed).blame fun more cause stuck => ?_) ?_
  · have whole := Stuck.inside (.whenTrue question _ _ conditionReading conditionShallow
      questionType) stuck
    rwa [List.append_assoc] at whole
  rintro trueTokens whenTrue after split ⟨trueReading, trueShallow, colon, next, stops⟩
  have closedAfter := closed.after split
  by_cases fits : colon.type = .colon
  · have taken := Tape.eq_prepend_of_next closedAfter next (by rw [fits]; decide)
    rw [bind_of_ok (expect_of_next next fits)]
    refine .prepend taken (.bind ((branch _ closedAfter.rest).blame
      fun more cause stuck => ?_) ?_)
    · have whole := Stuck.inside (.whenFalse question colon _ _ _ _ conditionReading
        conditionShallow questionType trueReading trueShallow fits) stuck
      simpa only [List.append_assoc, List.cons_append, List.nil_append] using whole
    · rintro falseTokens whenFalse final split'
        ⟨falseReading, falseShallow, token, next', stops'⟩
      have noOperator : ∀ op, token.type ≠ .operator op := by
        intro op type
        have refused := stops'.1 op type
        cases same : op.tier <;> rw [same] at refused <;> cases refused
      refine .done [] _ _ rfl ⟨?_, ?_, token, next', ?_, fun _ _ => rfl⟩
      · rw [List.append_nil]
        exact .conditional question colon _ _ _ _ _ _ conditionReading questionType trueReading fits
          falseReading
      · exact Nat.succ_le_succ (Nat.max_le.2 ⟨conditionShallow, Nat.max_le.2
          ⟨trueShallow, falseShallow⟩⟩)
      · exact fun op type => absurd type (noOperator op)
  · rw [bind_of_error (expect_of_other next fits)]
    refine .fault [] _ _ rfl next (.here ?_)
    rw [List.append_nil]
    exact .noColon depth question _ _ _ _ colon conditionReading conditionShallow questionType
      trueReading trueShallow stops fits

theorem outcome_suffix {depth : Nat} (branch : Sound depth (.atLeast .logical)) {level : Level}
    {tape : Tape} (closed : tape.Closed) {tokens : List Token} {expr : Expr}
    (chain : Chain depth level tokens expr tape) :
    Outcome (fun more => Returned (depth + 1) level (tokens ++ more))
      (fun more => Stuck (depth + 1) level (tokens ++ more)) tape
      (parser.suffix (expression depth (.atLeast .logical)) level expr tape) := by
  obtain ⟨reading, shallow, token, next, stop⟩ := chain
  by_cases goesOn : level = .conditional ∧ token.type = .question
  · obtain ⟨rfl, type⟩ := goesOn
    rw [suffix_of_question _ next type]
    exact .prepend (Tape.eq_prepend_of_next closed next (by rw [type]; decide))
      (outcome_branches branch closed.rest reading shallow type)
  · rw [suffix_of_other _ next fun loose type => goesOn ⟨loose, type⟩]
    refine .done [] _ _ rfl ⟨?_, Nat.succ_le_succ shallow, token, next, stop,
      fun loose type => absurd ⟨loose, type⟩ goesOn⟩
    rw [List.append_nil]
    exact reading.loosen level.strength_le_chain

/-- Whatever the parser returns the grammar reads, and wherever it gives up the grammar is
stuck. -/
theorem sound (depth : Nat) (level : Level) : Sound depth level := by
  induction depth generalizing level with
  | zero =>
    intro tape closed
    refine .ofNext (fun cause fails => ?_) fun token next => ?_
    · exact expression_zero_of_fault (by rw [fails]; rfl)
    · rw [expression_zero next]
      exact .fault [] _ _ rfl next (.here (.tooDeep level token))
  | succ depth inductionHypothesis =>
    intro tape closed
    rw [expression_succ]
    refine .bind (outcome_operand level closed (inductionHypothesis _)) ?_
    rintro operandTokens first behind split ⟨reading, shallow⟩
    have closedBehind := closed.after split
    have gathering : Gathering depth level .primary operandTokens first behind :=
      ⟨reading, shallow, Level.strength_le _, fun _ op _ _ => by cases op <;> decide⟩
    refine .bind (outcome_operators level inductionHypothesis _ (Nat.lt_succ_self _) closedBehind
      gathering) ?_
    intro taken expr after split' chain
    have closedAfter := closedBehind.after split'
    simpa only [List.append_assoc] using
      outcome_suffix (inductionHypothesis _) closedAfter chain

end IntExpr
