/-
This file says where reading an expression has to stop. Reading gets stuck behind a row of tokens
if that row opens some expressions, each inside the one before it, and in the innermost of them
the next token fits nowhere, or if one expression more than there may be would have to be opened.
Whoever is stuck has read what some expression starts with, and each type that is said to be
expected does start a continuation. None of this mentions the parser.
-/

import IntExpr.Proofs.Reading
import IntExpr.Report

namespace IntExpr

/-! ### What ends an expression -/

/-- Whether an expression is a conditional. -/
def Expr.isConditional : Expr → Bool
  | conditional _ _ _ _ => true
  | _ => false

/-- A token of some type behind an expression of a level neither continues it with an operator
nor makes it the condition of a conditional. -/
def Level.StopsBefore (level : Level) (expr : Expr) (type : TokenType) : Prop :=
  (∀ op, type = .operator op → level.admits op.tier = false) ∧
    (level = .conditional → type = .question → expr.isConditional = true)

theorem Level.stopsBefore_of_other {level : Level} {expr : Expr} {type : TokenType}
    (noOperator : ∀ op, type ≠ .operator op) (noQuestion : type ≠ .question) :
    level.StopsBefore expr type :=
  ⟨fun op same => absurd same (noOperator op), fun _ same => absurd same noQuestion⟩

/-! ### Expressions that are open -/

/-- A row of tokens from the start of an expression of one level to the start of an expression
of another level inside of it, where what has been read between may nest to some depth. -/
inductive Opens (depth : Nat) : Level → List Token → Level → Prop
  | group (level : Level) (opening : Token) (openingType : opening.type = .leftParen) :
    Opens depth level [opening] .conditional
  | rightOperand (level : Level) (op : Operator) (sign : Token) (leftTokens : List Token)
      (left : Expr) (leftReading : ReadAs (.atLeast op.tier) leftTokens left)
      (leftShallow : left.nestingBelow ≤ depth) (signType : sign.type = .operator op)
      (admitted : level.admits op.tier = true) :
    Opens depth level (leftTokens ++ [sign]) op.tier.tighter
  | whenTrue (question : Token) (conditionTokens : List Token) (condition : Expr)
      (conditionReading : ReadAs (.atLeast .logical) conditionTokens condition)
      (conditionShallow : condition.nestingBelow ≤ depth)
      (questionType : question.type = .question) :
    Opens depth .conditional (conditionTokens ++ [question]) (.atLeast .logical)
  | whenFalse (question colon : Token) (conditionTokens trueTokens : List Token)
      (condition whenTrue : Expr)
      (conditionReading : ReadAs (.atLeast .logical) conditionTokens condition)
      (conditionShallow : condition.nestingBelow ≤ depth)
      (questionType : question.type = .question)
      (trueReading : ReadAs (.atLeast .logical) trueTokens whenTrue)
      (trueShallow : whenTrue.nesting ≤ depth) (colonType : colon.type = .colon) :
    Opens depth .conditional (conditionTokens ++ question :: (trueTokens ++ [colon]))
      (.atLeast .logical)

/-- A row of tokens behind which no expression inside is open and reading has to stop. -/
inductive Halts : Nat → Level → List Token → GrammarError → Prop
  | tooDeep (level : Level) (found : Token) : Halts 0 level [] (.tooDeep found)
  | noOperand (depth : Nat) (level : Level) (found : Token)
      (refused : found.type ∉ operandStart) :
    Halts (depth + 1) level [] (.unexpected operandStart found)
  | unclosed (depth : Nat) (level : Level) (opening : Token) (tokens : List Token) (inner : Expr)
      (found : Token) (openingType : opening.type = .leftParen)
      (reading : ReadAs .conditional tokens inner) (shallow : inner.nesting ≤ depth)
      (stops : Level.conditional.StopsBefore inner found.type)
      (refused : found.type ≠ .rightParen) :
    Halts (depth + 1) level (opening :: tokens) (.unexpected [.rightParen] found)
  | noColon (depth : Nat) (question : Token) (conditionTokens trueTokens : List Token)
      (condition whenTrue : Expr) (found : Token)
      (conditionReading : ReadAs (.atLeast .logical) conditionTokens condition)
      (conditionShallow : condition.nestingBelow ≤ depth)
      (questionType : question.type = .question)
      (trueReading : ReadAs (.atLeast .logical) trueTokens whenTrue)
      (trueShallow : whenTrue.nesting ≤ depth)
      (stops : (Level.atLeast .logical).StopsBefore whenTrue found.type)
      (refused : found.type ≠ .colon) :
    Halts (depth + 1) .conditional (conditionTokens ++ question :: trueTokens)
      (.unexpected [.colon] found)

/-- A row of tokens behind which reading an expression of some level, which may nest to some
depth, has to stop: it halts there, or in an expression that is open there. -/
inductive Stuck : Nat → Level → List Token → GrammarError → Prop
  | here {depth : Nat} {level : Level} {before : List Token} {cause : GrammarError}
      (halts : Halts depth level before cause) : Stuck depth level before cause
  | inside {depth : Nat} {level inner : Level} {context before : List Token}
      {cause : GrammarError} (opens : Opens depth level context inner)
      (stuck : Stuck depth inner before cause) :
    Stuck (depth + 1) level (context ++ before) cause

/-! ### Going on behind what has been read -/

/-- The types of token that could come next: those that are reported as expected, and those that
would have opened the expression that is one too many. -/
def GrammarError.wanted : GrammarError → List TokenType
  | tooDeep _ => operandStart
  | cause => cause.expected

/-- A token of a type, made up. -/
def Token.ofType (type : TokenType) : Token := ⟨type, "", .unknown⟩

/-- A numeral can be an expression of any level. -/
theorem readAs_numeral (level : Level) :
    ∃ expr, ReadAs level [Token.ofType .integer] expr :=
  ⟨_, (ReadAs.integer (.ofType .integer) rfl).loosen level.strength_le⟩

/-- A group can be an expression of any level. -/
theorem ReadAs.exists_group {opening closing : Token} {tokens : List Token} {inner : Expr}
    (level : Level) (openingType : opening.type = .leftParen)
    (reading : ReadAs .conditional tokens inner) (closingType : closing.type = .rightParen) :
    ∃ expr, ReadAs level (opening :: tokens ++ [closing]) expr :=
  ⟨_, (ReadAs.group opening closing _ _ openingType reading closingType).loosen level.strength_le⟩

/-- An expression that is open can be closed once the one inside it is complete. -/
theorem Opens.close {depth : Nat} {level inner : Level} {context tokens : List Token}
    {expr : Expr} (opens : Opens depth level context inner)
    (reading : ReadAs inner tokens expr) :
    ∃ closing whole, ReadAs level (context ++ tokens ++ closing) whole := by
  cases opens with
  | group _ opening openingType =>
    exact ⟨[.ofType .rightParen], reading.exists_group level openingType rfl⟩
  | rightOperand _ op sign leftTokens left leftReading _ signType admitted =>
    have whole := ReadAs.operation op sign _ _ _ _ leftReading signType reading
    have joined : leftTokens ++ sign :: tokens = leftTokens ++ [sign] ++ tokens ++ [] := by simp
    rw [joined] at whole
    exact ⟨[], _, whole.loosen ((level.admits_iff op.tier).1 admitted)⟩
  | whenTrue question conditionTokens condition conditionReading _ questionType =>
    obtain ⟨whenFalse, falseReading⟩ := readAs_numeral (.atLeast .logical)
    have whole := ReadAs.conditional question (.ofType .colon) _ _ _ _ _ _ conditionReading
      questionType reading rfl falseReading
    have joined : conditionTokens ++ question :: (tokens ++ [.ofType .colon, .ofType .integer]) =
        conditionTokens ++ [question] ++ tokens ++ [.ofType .colon, .ofType .integer] := by simp
    rw [joined] at whole
    exact ⟨_, _, whole⟩
  | whenFalse question colon conditionTokens trueTokens condition whenTrue conditionReading _
      questionType trueReading _ colonType =>
    have whole := ReadAs.conditional question colon _ _ _ _ _ _ conditionReading questionType
      trueReading colonType reading
    have joined : conditionTokens ++ question :: (trueTokens ++ colon :: tokens) =
        conditionTokens ++ question :: (trueTokens ++ [colon]) ++ tokens ++ [] := by simp
    rw [joined] at whole
    exact ⟨_, _, whole⟩

/-- A token that can start an operand starts an expression of any level. -/
theorem exists_readAs_of_operandStart (level : Level) (token : Token)
    (starts : token.type ∈ operandStart) :
    ∃ more expr, ReadAs level (token :: more) expr := by
  simp only [operandStart, List.mem_cons, List.not_mem_nil, or_false] at starts
  obtain isParen | isInteger | isIdentifier := starts
  · obtain ⟨inner, reading⟩ := readAs_numeral .conditional
    exact ⟨_, reading.exists_group level isParen
      (show (Token.ofType .rightParen).type = .rightParen from rfl)⟩
  · exact ⟨[], _, (ReadAs.integer token isInteger).loosen level.strength_le⟩
  · exact ⟨[], _, (ReadAs.identifier token isIdentifier).loosen level.strength_le⟩

theorem Halts.goOn {depth : Nat} {level : Level} {before : List Token} {cause : GrammarError}
    (halts : Halts depth level before cause) (token : Token)
    (wanted : token.type ∈ cause.wanted) :
    ∃ more expr, ReadAs level (before ++ token :: more) expr := by
  cases halts with
  | tooDeep => exact exists_readAs_of_operandStart level token wanted
  | noOperand => exact exists_readAs_of_operandStart level token wanted
  | unclosed _ _ opening tokens inner found openingType reading =>
    exact ⟨[], reading.exists_group level openingType (List.mem_singleton.1 wanted)⟩
  | noColon _ question conditionTokens trueTokens condition whenTrue found conditionReading _
      questionType trueReading =>
    obtain ⟨whenFalse, falseReading⟩ := readAs_numeral (.atLeast .logical)
    have whole := ReadAs.conditional question token _ _ _ _ _ _ conditionReading questionType
      trueReading (List.mem_singleton.1 wanted) falseReading
    have joined : conditionTokens ++ question :: (trueTokens ++ [token, .ofType .integer]) =
        conditionTokens ++ question :: trueTokens ++ token :: [.ofType .integer] := by simp
    rw [joined] at whole
    exact ⟨_, _, whole⟩

/-- Wherever reading is stuck, a token of any type that is wanted there goes on to an
expression. -/
theorem Stuck.goOn {depth : Nat} {level : Level} {before : List Token} {cause : GrammarError}
    (stuck : Stuck depth level before cause) (token : Token)
    (wanted : token.type ∈ cause.wanted) :
    ∃ more expr, ReadAs level (before ++ token :: more) expr := by
  induction stuck with
  | here halts => exact halts.goOn token wanted
  | @inside depth level inner context before cause opens stuck inductionHypothesis =>
    obtain ⟨more, expr, reading⟩ := inductionHypothesis wanted
    obtain ⟨closing, whole, closed⟩ := opens.close reading
    refine ⟨more ++ closing, whole, ?_⟩
    rw [List.append_assoc, List.append_assoc, List.cons_append] at closed
    rwa [List.append_assoc]

/-! ### More room, and another token -/

theorem Opens.deepen {depth deeper : Nat} {level inner : Level} {context : List Token}
    (opens : Opens depth level context inner) (room : depth ≤ deeper) :
    Opens deeper level context inner := by
  cases opens with
  | group _ opening openingType => exact .group level opening openingType
  | rightOperand _ op sign leftTokens left leftReading leftShallow signType admitted =>
    exact .rightOperand level op sign _ _ leftReading (Nat.le_trans leftShallow room) signType
      admitted
  | whenTrue question conditionTokens condition conditionReading conditionShallow questionType =>
    exact .whenTrue question _ _ conditionReading (Nat.le_trans conditionShallow room) questionType
  | whenFalse question colon conditionTokens trueTokens condition whenTrue conditionReading
      conditionShallow questionType trueReading trueShallow colonType =>
    exact .whenFalse question colon _ _ _ _ conditionReading (Nat.le_trans conditionShallow room)
      questionType trueReading (Nat.le_trans trueShallow room) colonType

theorem Halts.deepen {depth deeper : Nat} {level : Level} {before : List Token}
    {cause : GrammarError} (halts : Halts depth level before cause)
    (notTooDeep : cause.fault ≠ .nestedTooDeeply) (room : depth ≤ deeper) :
    Halts deeper level before cause := by
  cases halts with
  | tooDeep => exact absurd rfl notTooDeep
  | noOperand depth _ found refused =>
    obtain ⟨extra, rfl⟩ := Nat.exists_eq_add_of_lt room
    exact .noOperand _ level found refused
  | unclosed depth _ opening tokens inner found openingType reading shallow stops refused =>
    obtain ⟨extra, rfl⟩ := Nat.exists_eq_add_of_lt room
    exact .unclosed _ level opening tokens inner found openingType reading
      (Nat.le_add_right_of_le shallow) stops refused
  | noColon depth question conditionTokens trueTokens condition whenTrue found conditionReading
      conditionShallow questionType trueReading trueShallow stops refused =>
    obtain ⟨extra, rfl⟩ := Nat.exists_eq_add_of_lt room
    exact .noColon _ question _ _ _ _ found conditionReading
      (Nat.le_add_right_of_le conditionShallow) questionType trueReading
      (Nat.le_add_right_of_le trueShallow) stops refused

/-- Where reading is stuck for another reason than depth, more room does not help. -/
theorem Stuck.deepen {depth deeper : Nat} {level : Level} {before : List Token}
    {cause : GrammarError} (stuck : Stuck depth level before cause)
    (notTooDeep : cause.fault ≠ .nestedTooDeeply) (room : depth ≤ deeper) :
    Stuck deeper level before cause := by
  induction stuck generalizing deeper with
  | here halts => exact .here (halts.deepen notTooDeep room)
  | @inside depth _ _ _ _ _ opens stuck inductionHypothesis =>
    obtain ⟨extra, rfl⟩ := Nat.exists_eq_add_of_lt room
    have lessRoom := Nat.le_add_right depth extra
    exact .inside (opens.deepen lessRoom) (inductionHypothesis notTooDeep lessRoom)

/-- The same cause at another token. -/
def GrammarError.refound (token : Token) : GrammarError → GrammarError
  | unexpected expected _ => unexpected expected token
  | trailing _ => trailing token
  | tooDeep _ => tooDeep token

@[simp] theorem GrammarError.found_refound (token : Token) (cause : GrammarError) :
    (cause.refound token).found = token := by
  cases cause <;> rfl

theorem GrammarError.fault_unexpected_ne (expected : List TokenType) (found : Token) :
    (unexpected expected found).fault ≠ .nestedTooDeeply := by
  show (if found.type = .endOfInput then Fault.unexpectedEnd else Fault.unexpectedToken) ≠ _
  split <;> decide

theorem Level.stopsBefore_endOfInput (level : Level) (expr : Expr) :
    level.StopsBefore expr .endOfInput :=
  stopsBefore_of_other (fun _ same => TokenType.noConfusion same)
    (fun same => TokenType.noConfusion same)

/-- Where there is no room for another expression no token helps, and where the next token does
not fit the end of the input does not either. -/
theorem Halts.refound {depth : Nat} {level : Level} {before : List Token} {cause : GrammarError}
    (halts : Halts depth level before cause) (token : Token)
    (anyway : cause.fault = .nestedTooDeeply ∨ token.type = .endOfInput) :
    Halts depth level before (cause.refound token) := by
  cases halts with
  | tooDeep => exact .tooDeep level token
  | noOperand depth =>
    have isEnd := anyway.resolve_left (GrammarError.fault_unexpected_ne _ _)
    exact .noOperand depth level token (by rw [isEnd]; decide)
  | unclosed depth _ opening tokens inner found openingType reading shallow =>
    have isEnd := anyway.resolve_left (GrammarError.fault_unexpected_ne _ _)
    exact .unclosed depth level opening tokens inner token openingType reading shallow
      (by rw [isEnd]; exact Level.stopsBefore_endOfInput _ _) (by rw [isEnd]; decide)
  | noColon depth question conditionTokens trueTokens condition whenTrue found conditionReading
      conditionShallow questionType trueReading trueShallow =>
    have isEnd := anyway.resolve_left (GrammarError.fault_unexpected_ne _ _)
    exact .noColon depth question _ _ _ _ token conditionReading conditionShallow questionType
      trueReading trueShallow (by rw [isEnd]; exact Level.stopsBefore_endOfInput _ _)
      (by rw [isEnd]; decide)

theorem Stuck.refound {depth : Nat} {level : Level} {before : List Token} {cause : GrammarError}
    (stuck : Stuck depth level before cause) (token : Token)
    (anyway : cause.fault = .nestedTooDeeply ∨ token.type = .endOfInput) :
    Stuck depth level before (cause.refound token) := by
  induction stuck with
  | here halts => exact .here (halts.refound token anyway)
  | inside opens stuck inductionHypothesis => exact .inside opens (inductionHypothesis anyway)

end IntExpr
