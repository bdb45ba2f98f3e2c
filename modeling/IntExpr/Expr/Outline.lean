/-
This file writes a tree as an outline: one line for each node, a parent before its children and
the children one level further in. The lines come from a loop over the nodes that are still to
be written: it writes the first of them and puts the children of that one in its place.
-/

import IntExpr.Expr

namespace IntExpr.Expr

/-- The children of a node, in the order in which they are written. -/
def children : Expr → List Expr
  | literal _ _ | identifier _ _ | foreign _ => []
  | group inner _ => [inner]
  | binary left _ right _ => [left, right]
  | conditional condition whenTrue whenFalse _ => [condition, whenTrue, whenFalse]

/-- The name of the kind of a node. -/
def kind : Expr → String
  | literal _ _ => "IntegerLiteral"
  | identifier _ _ => "Identifier"
  | group _ _ => "Parenthesized"
  | binary _ _ _ _ => "BinaryOp"
  | conditional _ _ _ _ => "Ternary"
  | foreign value => value.type

/-- The line of a node, without its indentation. -/
def headline : Expr → Except DigitLimitError String
  | literal value _ => (Decimal.write value).map ("IntegerLiteral " ++ ·)
  | identifier name _ => .ok ("Identifier " ++ name)
  | binary _ op _ _ => .ok ("BinaryOp '" ++ op.symbol ++ "' (" ++ op.tier.name ++ ")")
  | expr => .ok expr.kind

/-- The nodes of a tree with their levels, a parent before its children. -/
def preorder (level : Nat) : Expr → List (Nat × Expr)
  | group inner span => (level, group inner span) :: inner.preorder (level + 1)
  | binary left op right span =>
    (level, binary left op right span) ::
      (left.preorder (level + 1) ++ right.preorder (level + 1))
  | conditional condition whenTrue whenFalse span =>
    (level, conditional condition whenTrue whenFalse span) ::
      (condition.preorder (level + 1) ++
        (whenTrue.preorder (level + 1) ++ whenFalse.preorder (level + 1)))
  | leaf => [(level, leaf)]

/-- A level's indentation. -/
def indentation (indent : String) : Nat → String
  | 0 => ""
  | level + 1 => indent ++ indentation indent level

/-- The number of nodes that are still to be written. -/
def pendingSize : List (Nat × Expr) → Nat
  | [] => 0
  | entry :: pending => entry.2.size + pendingSize pending

theorem pendingSize_children_lt (level below : Nat) (expr : Expr) (pending : List (Nat × Expr)) :
    pendingSize (expr.children.map (below, ·) ++ pending) <
      pendingSize ((level, expr) :: pending) := by
  cases expr <;> simp [pendingSize, children, size] <;> omega

/-- The lines of the nodes that are still to be written, with all that is below them. -/
def outlineLines (indent : String) :
    List (Nat × Expr) → Except DigitLimitError (List String)
  | [] => .ok []
  | (level, expr) :: pending =>
    match expr.headline with
    | .error refusal => .error refusal
    | .ok line =>
      match outlineLines indent (expr.children.map (level + 1, ·) ++ pending) with
      | .error refusal => .error refusal
      | .ok lines => .ok ((indentation indent level ++ line) :: lines)
termination_by pending => pendingSize pending
decreasing_by exact pendingSize_children_lt level (level + 1) expr pending

/-- The outline of a tree. -/
def outline (indent : String) (expr : Expr) : Except DigitLimitError String :=
  (outlineLines indent [(0, expr)]).map (String.intercalate "\n")

end IntExpr.Expr
