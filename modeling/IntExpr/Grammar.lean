/-
This file gives the grammar of expressions as a relation between rows of tokens and trees, layer
by layer: each tier associates to the left over the next tighter one, and a conditional may only
be a whole expression or stand in parentheses. The relation says nothing of how deep expressions
may nest; the nesting of a tree is counted by a function of its own.
-/

import IntExpr.Parser

namespace IntExpr

/-! ### Derivations -/

/-- A row of tokens is an expression of some level with the given tree, which carries no
spans. -/
inductive Derives : Level → List Token → Expr → Prop
  | integer (token : Token) (type : token.type = .integer) :
    Derives .primary [token] (.literal token.number none)
  | identifier (token : Token) (type : token.type = .identifier) :
    Derives .primary [token] (.identifier token.lexeme none)
  | group (opening closing : Token) (tokens : List Token) (inner : Expr)
      (openingType : opening.type = .leftParen) (derivation : Derives .conditional tokens inner)
      (closingType : closing.type = .rightParen) :
    Derives .primary (opening :: tokens ++ [closing]) (.group inner none)
  | operand (tier : Tier) (tokens : List Token) (expr : Expr)
      (derivation : Derives tier.tighter tokens expr) :
    Derives (.atLeast tier) tokens expr
  | operation (op : Operator) (sign : Token) (leftTokens rightTokens : List Token)
      (left right : Expr) (leftDerivation : Derives (.atLeast op.tier) leftTokens left)
      (signType : sign.type = .operator op)
      (rightDerivation : Derives op.tier.tighter rightTokens right) :
    Derives (.atLeast op.tier) (leftTokens ++ sign :: rightTokens) (.binary left op right none)
  | unconditional (tokens : List Token) (expr : Expr)
      (derivation : Derives (.atLeast .logical) tokens expr) :
    Derives .conditional tokens expr
  | conditional (question colon : Token) (conditionTokens trueTokens falseTokens : List Token)
      (condition whenTrue whenFalse : Expr)
      (conditionDerivation : Derives (.atLeast .logical) conditionTokens condition)
      (questionType : question.type = .question)
      (trueDerivation : Derives (.atLeast .logical) trueTokens whenTrue)
      (colonType : colon.type = .colon)
      (falseDerivation : Derives (.atLeast .logical) falseTokens whenFalse) :
    Derives .conditional (conditionTokens ++ question :: (trueTokens ++ colon :: falseTokens))
      (.conditional condition whenTrue whenFalse none)

/-- A row of tokens that is a whole expression. -/
def Sentence (tokens : List Token) : Prop :=
  ∃ expr, Derives .conditional tokens expr

/-- A row of tokens that some continuation makes a whole expression. -/
def Viable (tokens : List Token) : Prop :=
  ∃ continuation, Sentence (tokens ++ continuation)

/-- No row of tokens is empty and an expression. -/
theorem Derives.tokens_ne_nil {level : Level} {tokens : List Token} {expr : Expr}
    (derivation : Derives level tokens expr) : tokens ≠ [] := by
  induction derivation with
  | operand _ _ _ _ inductionHypothesis => exact inductionHypothesis
  | unconditional _ _ _ inductionHypothesis => exact inductionHypothesis
  | _ => simp

/-! ### Nesting -/

namespace Expr

/-- How deep expressions nest below a node. A left operand and a condition are read as part of
the expression that they start; right operands, branches, and what stands in parentheses are
read as expressions of their own. -/
def nestingBelow : Expr → Nat
  | group inner _ => inner.nestingBelow + 1
  | binary left _ right _ => max left.nestingBelow (right.nestingBelow + 1)
  | conditional condition whenTrue whenFalse _ =>
    max condition.nestingBelow (max (whenTrue.nestingBelow + 1) (whenFalse.nestingBelow + 1))
  | _ => 0

/-- How deep an expression nests, itself included. -/
def nesting (expr : Expr) : Nat := expr.nestingBelow + 1

/-- Nesting has nothing to do with spans. -/
@[simp] theorem nesting_withoutSpans (expr : Expr) : expr.withoutSpans.nesting = expr.nesting := by
  have below : expr.withoutSpans.nestingBelow = expr.nestingBelow := by
    induction expr <;> simp_all [withoutSpans, nestingBelow]
  rw [nesting, nesting, below]

end Expr

end IntExpr
