/-
This file refines the grammar by the spans that the parser gives to the nodes of a tree: a row
of tokens is read as a tree with spans exactly if it derives the tree without them. It also ranks
the levels by how tightly operators have to bind in them; what is an expression of a level is one
of every looser level.
-/

import IntExpr.Grammar

namespace IntExpr

/-! ### The order of the levels -/

/-- How tightly the operators of a level have to bind. No operator binds tightly enough for the
tightest level, and any does for the loosest. -/
def Level.strength : Level → Nat
  | conditional => 0
  | atLeast tier => tier.strength
  | primary => 7

namespace Level

theorem admits_iff (level : Level) (tier : Tier) :
    level.admits tier = true ↔ level.strength ≤ tier.strength := by
  cases level with
  | atLeast least => simp [admits, strength]
  | conditional => simp [admits, strength]
  | primary => cases tier <;> simp [admits, strength, Tier.strength]

theorem admits_eq_false_iff (level : Level) (tier : Tier) :
    level.admits tier = false ↔ tier.strength < level.strength := by
  rw [← Bool.not_eq_true, admits_iff, Nat.not_le]

theorem strength_le (level : Level) : level.strength ≤ primary.strength := by
  cases level with
  | atLeast least => cases least <;> decide
  | _ => decide

theorem eq_of_strength_eq {first second : Level} (same : first.strength = second.strength) :
    first = second := by
  cases first with
  | atLeast tier => cases second with
    | atLeast other => cases tier <;> cases other <;> simp_all [strength, Tier.strength]
    | _ => cases tier <;> simp_all [strength, Tier.strength]
  | _ => cases second with
    | atLeast tier => cases tier <;> simp_all [strength, Tier.strength]
    | _ => simp_all [strength]

end Level

/-- The right operand of an operator is one level tighter. -/
theorem Tier.tighter_strength (tier : Tier) : tier.tighter.strength = tier.strength + 1 := by
  cases tier <;> rfl

theorem Tier.tighter_ne_conditional (tier : Tier) : tier.tighter ≠ .conditional := by
  cases tier <;> decide

/-! ### Reading with spans -/

/-- A row of tokens is an expression of some level with the given tree. A leaf spans its token,
a group its parentheses, and any other node the nodes that are first and last in it. -/
inductive ReadAs : Level → List Token → Expr → Prop
  | integer (token : Token) (type : token.type = .integer) :
    ReadAs .primary [token] (.literal token.number (some (.single token.location)))
  | identifier (token : Token) (type : token.type = .identifier) :
    ReadAs .primary [token] (.identifier token.lexeme (some (.single token.location)))
  | group (opening closing : Token) (tokens : List Token) (inner : Expr)
      (openingType : opening.type = .leftParen) (reading : ReadAs .conditional tokens inner)
      (closingType : closing.type = .rightParen) :
    ReadAs .primary (opening :: tokens ++ [closing])
      (.group inner (some ⟨opening.location, closing.location⟩))
  | operand (tier : Tier) (tokens : List Token) (expr : Expr)
      (reading : ReadAs tier.tighter tokens expr) :
    ReadAs (.atLeast tier) tokens expr
  | operation (op : Operator) (sign : Token) (leftTokens rightTokens : List Token)
      (left right : Expr) (leftReading : ReadAs (.atLeast op.tier) leftTokens left)
      (signType : sign.type = .operator op)
      (rightReading : ReadAs op.tier.tighter rightTokens right) :
    ReadAs (.atLeast op.tier) (leftTokens ++ sign :: rightTokens)
      (.binary left op right (Span.cover left.span right.span))
  | unconditional (tokens : List Token) (expr : Expr)
      (reading : ReadAs (.atLeast .logical) tokens expr) :
    ReadAs .conditional tokens expr
  | conditional (question colon : Token) (conditionTokens trueTokens falseTokens : List Token)
      (condition whenTrue whenFalse : Expr)
      (conditionReading : ReadAs (.atLeast .logical) conditionTokens condition)
      (questionType : question.type = .question)
      (trueReading : ReadAs (.atLeast .logical) trueTokens whenTrue)
      (colonType : colon.type = .colon)
      (falseReading : ReadAs (.atLeast .logical) falseTokens whenFalse) :
    ReadAs .conditional (conditionTokens ++ question :: (trueTokens ++ colon :: falseTokens))
      (.conditional condition whenTrue whenFalse (Span.cover condition.span whenFalse.span))

namespace ReadAs

variable {level : Level} {tokens : List Token} {expr : Expr}

/-- What is read is derived, up to spans. -/
theorem derives (reading : ReadAs level tokens expr) :
    Derives level tokens expr.withoutSpans := by
  induction reading with
  | integer token type => exact .integer token type
  | identifier token type => exact .identifier token type
  | group opening closing _ _ openingType _ closingType inductionHypothesis =>
    exact .group opening closing _ _ openingType inductionHypothesis closingType
  | operand tier _ _ _ inductionHypothesis => exact .operand tier _ _ inductionHypothesis
  | operation op sign _ _ _ _ _ signType _ leftDerivation rightDerivation =>
    exact .operation op sign _ _ _ _ leftDerivation signType rightDerivation
  | unconditional _ _ _ inductionHypothesis => exact .unconditional _ _ inductionHypothesis
  | conditional question colon _ _ _ _ _ _ _ questionType _ colonType _ conditionDerivation
      trueDerivation falseDerivation =>
    exact .conditional question colon _ _ _ _ _ _ conditionDerivation questionType
      trueDerivation colonType falseDerivation

/-- Every level admits what a tighter one does. -/
theorem loosen {loose : Level} (reading : ReadAs level tokens expr)
    (looser : loose.strength ≤ level.strength) : ReadAs loose tokens expr := by
  obtain ⟨steps, apart⟩ := Nat.exists_eq_add_of_le looser
  induction steps generalizing loose with
  | zero => rwa [← Level.eq_of_strength_eq apart]
  | succ steps inductionHypothesis =>
    cases loose with
    | conditional =>
      have one : (Level.atLeast .logical).strength = Level.conditional.strength + 1 := rfl
      exact .unconditional _ _ (inductionHypothesis (by omega) (by omega))
    | atLeast tier =>
      have one : tier.tighter.strength = (Level.atLeast tier).strength + 1 := tier.tighter_strength
      exact .operand tier _ _ (inductionHypothesis (by omega) (by omega))
    | primary => exact absurd level.strength_le (by omega)

end ReadAs

/-- What is derived is read with some spans. -/
theorem Derives.exists_readAs {level : Level} {tokens : List Token} {tree : Expr}
    (derivation : Derives level tokens tree) :
    ∃ expr, ReadAs level tokens expr ∧ expr.withoutSpans = tree := by
  induction derivation with
  | integer token type => exact ⟨_, .integer token type, rfl⟩
  | identifier token type => exact ⟨_, .identifier token type, rfl⟩
  | group opening closing _ _ openingType _ closingType inductionHypothesis =>
    obtain ⟨inner, reading, rfl⟩ := inductionHypothesis
    exact ⟨_, .group opening closing _ _ openingType reading closingType, rfl⟩
  | operand tier _ _ _ inductionHypothesis =>
    obtain ⟨expr, reading, rfl⟩ := inductionHypothesis
    exact ⟨expr, .operand tier _ _ reading, rfl⟩
  | operation op sign _ _ _ _ _ signType _ leftHypothesis rightHypothesis =>
    obtain ⟨left, leftReading, rfl⟩ := leftHypothesis
    obtain ⟨right, rightReading, rfl⟩ := rightHypothesis
    exact ⟨_, .operation op sign _ _ _ _ leftReading signType rightReading, rfl⟩
  | unconditional _ _ _ inductionHypothesis =>
    obtain ⟨expr, reading, rfl⟩ := inductionHypothesis
    exact ⟨expr, .unconditional _ _ reading, rfl⟩
  | conditional question colon _ _ _ _ _ _ _ questionType _ colonType _ conditionHypothesis
      trueHypothesis falseHypothesis =>
    obtain ⟨condition, conditionReading, rfl⟩ := conditionHypothesis
    obtain ⟨whenTrue, trueReading, rfl⟩ := trueHypothesis
    obtain ⟨whenFalse, falseReading, rfl⟩ := falseHypothesis
    exact ⟨_, .conditional question colon _ _ _ _ _ _ conditionReading questionType trueReading
      colonType falseReading, rfl⟩

/-- Every level admits what a tighter one does. -/
theorem Derives.loosen {level loose : Level} {tokens : List Token} {tree : Expr}
    (derivation : Derives level tokens tree) (looser : loose.strength ≤ level.strength) :
    Derives loose tokens tree := by
  obtain ⟨expr, reading, rfl⟩ := derivation.exists_readAs
  exact (reading.loosen looser).derives

/-- The sentences are the rows of tokens that are read as an expression. -/
theorem sentence_iff (tokens : List Token) :
    Sentence tokens ↔ ∃ expr, ReadAs .conditional tokens expr := by
  constructor
  · rintro ⟨_, derivation⟩
    obtain ⟨expr, reading, _⟩ := derivation.exists_readAs
    exact ⟨expr, reading⟩
  · rintro ⟨expr, reading⟩
    exact ⟨_, reading.derives⟩

end IntExpr
