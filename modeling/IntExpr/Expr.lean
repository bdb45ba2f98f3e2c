/-
This file gives expression trees. A node may carry the span of source text it was read from.
Trees can also be put together by hand, and then a value that is no expression may stand in a
place of one; such a value is only noticed when it is evaluated.
-/

import IntExpr.Token

namespace IntExpr

/-- A value that is no expression. -/
inductive Foreign where
  /-- An integer by itself. -/
  | integer (value : Int)
  /-- A truth value. -/
  | boolean (value : Bool)
  /-- A value of another type, with what tells it from the other values of that type. -/
  | other (type content : String)
deriving DecidableEq, Inhabited

/-- The name of the type of a foreign value. -/
def Foreign.type : Foreign → String
  | integer _ => "int"
  | boolean _ => "bool"
  | other type _ => type

/-- The integer that a foreign value is. A truth value counts as none. -/
def Foreign.integer? : Foreign → Option Int
  | integer value => some value
  | boolean _ | other _ _ => none

/-- Expressions. -/
inductive Expr where
  /-- An integer constant. -/
  | literal (value : Int) (span : Option Span)
  /-- A name whose value is looked up. -/
  | identifier (name : String) (span : Option Span)
  /-- An expression in parentheses. -/
  | group (inner : Expr) (span : Option Span)
  /-- A binary operation. Its tier is that of its operator. -/
  | binary (left : Expr) (op : Operator) (right : Expr) (span : Option Span)
  /-- A choice between two expressions. -/
  | conditional (condition whenTrue whenFalse : Expr) (span : Option Span)
  /-- A value that is no expression. -/
  | foreign (value : Foreign)
deriving DecidableEq, Inhabited

namespace Expr

/-- The span of source text that a node was read from, if known. -/
def span : Expr → Option Span
  | literal _ span => span
  | identifier _ span => span
  | group _ span => span
  | binary _ _ _ span => span
  | conditional _ _ _ span => span
  | foreign _ => none

/-- Where a node starts, if known. -/
def place (expr : Expr) : Option Location :=
  expr.span.map Span.start

/-- The number of nodes. -/
def size : Expr → Nat
  | literal _ _ => 1
  | identifier _ _ => 1
  | group inner _ => inner.size + 1
  | binary left _ right _ => left.size + right.size + 1
  | conditional condition whenTrue whenFalse _ =>
    condition.size + whenTrue.size + whenFalse.size + 1
  | foreign _ => 1

theorem size_pos (expr : Expr) : 0 < expr.size := by
  cases expr <;> simp [size]

/-- The expression inside any number of parentheses. -/
def ungroup : Expr → Expr
  | group inner _ => inner.ungroup
  | expr => expr

theorem size_ungroup_le (expr : Expr) : expr.ungroup.size ≤ expr.size := by
  induction expr with
  | group inner span inductionHypothesis =>
    simp only [ungroup, size]
    omega
  | _ => exact Nat.le_refl _

theorem size_ungroup_lt {part whole : Expr} (smaller : part.size < whole.size) :
    part.ungroup.size < whole.size :=
  Nat.lt_of_le_of_lt part.size_ungroup_le smaller

/-- The same tree without spans. -/
def withoutSpans : Expr → Expr
  | literal value _ => literal value none
  | identifier name _ => identifier name none
  | group inner _ => group inner.withoutSpans none
  | binary left op right _ => binary left.withoutSpans op right.withoutSpans none
  | conditional condition whenTrue whenFalse _ =>
    conditional condition.withoutSpans whenTrue.withoutSpans whenFalse.withoutSpans none
  | foreign value => foreign value

/-- Two trees are alike when they differ in spans only. -/
def Alike (first second : Expr) : Prop :=
  first.withoutSpans = second.withoutSpans

instance (first second : Expr) : Decidable (first.Alike second) :=
  inferInstanceAs (Decidable (first.withoutSpans = second.withoutSpans))

end Expr

/-! ### Building an operation by type and tier -/

/-- A token type was named as an operator of a tier it does not belong to. -/
structure TierMismatch where
  type : TokenType
  tier : Tier
deriving DecidableEq, Inhabited

/-- What is said of a mismatch. -/
def TierMismatch.message (mismatch : TierMismatch) : String :=
  "operator " ++ mismatch.type.name ++ " does not belong to the " ++ mismatch.tier.name ++ " tier"

/-- A binary operation from the type of its operator and the tier it is meant to bind in. -/
def Expr.ofOperation (left : Expr) (type : TokenType) (right : Expr) (tier : Tier)
    (span : Option Span) : Except TierMismatch Expr :=
  match type with
  | .operator op => if op.tier = tier then .ok (.binary left op right span) else .error ⟨type, tier⟩
  | _ => .error ⟨type, tier⟩

end IntExpr
