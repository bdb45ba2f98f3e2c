/-
This file proves that evaluation, which works chains off in a loop and strips parentheses before
it looks at an operand, computes the meaning that plain recursion gives to a tree. The loop sees
the links of a chain with the chain's first operand in front of them; taking a chain apart moves
operations from the tree into the links without changing what the two come to together, and that
is also why the first failure and the place it names stay the same.
-/

import IntExpr.Expr.Meaning

namespace IntExpr.Expr

/-! ### What a chain comes to -/

/-- What links lead to, by plain recursion, from the value of all that stands before them. -/
def meaningFrom (bindings : Option Bindings) (value : Int) :
    List Link → Except EvaluationError Int
  | [] => .ok value
  | link :: rest => do
    let operand ← link.operand.meaning bindings
    let next ← operate link.op value operand link.operand.place
    meaningFrom bindings next rest

/-- Parentheses around a tree do not change its meaning. -/
@[simp] theorem meaning_ungroup (bindings : Option Bindings) (expr : Expr) :
    expr.ungroup.meaning bindings = expr.meaning bindings := by
  induction expr with
  | group inner span inductionHypothesis =>
    rw [ungroup, inductionHypothesis, meaning]
  | _ => rfl

/-- A binary operation means what its single link leads to from its left operand. -/
theorem meaning_binary_bind (bindings : Option Bindings) (left : Expr) (op : Operator)
    (right : Expr) (span : Option Span) (links : List Link) :
    ((binary left op right span).meaning bindings >>= (meaningFrom bindings · links)) =
      (left.meaning bindings >>= (meaningFrom bindings · (⟨op, right⟩ :: links))) := by
  rw [meaning]
  cases left.meaning bindings with
  | error cause => rfl
  | ok first =>
    show _ = meaningFrom bindings first (⟨op, right⟩ :: links)
    rw [meaningFrom]
    cases right.meaning bindings with
    | error cause => rfl
    | ok second =>
      show (operate op first second right.place >>= _) =
        (operate op first second right.place >>= _)
      cases operate op first second right.place <;> rfl

/-- Taking a chain apart does not change what it comes to: its first operand and its links lead
to what the whole tree and the links behind it lead to. -/
theorem meaning_unchain (bindings : Option Bindings) (expr : Expr) (links : List Link) :
    ((expr.unchain links).1.meaning bindings >>=
        (meaningFrom bindings · (expr.unchain links).2)) =
      (expr.meaning bindings >>= (meaningFrom bindings · links)) := by
  induction expr generalizing links with
  | group inner span inductionHypothesis =>
    rw [unchain, inductionHypothesis, meaning]
  | binary left op right span leftHypothesis _ =>
    rw [unchain, leftHypothesis, meaning_binary_bind]
  | _ => rfl

/-- With no links behind it, a tree comes to its meaning. -/
theorem meaning_bind_nil (bindings : Option Bindings) (expr : Expr) :
    (expr.meaning bindings >>= (meaningFrom bindings · [])) = expr.meaning bindings := by
  cases expr.meaning bindings <;> rfl

/-! ### Evaluation and meaning -/

/-- One round of the loop: if the operand of the first link is evaluated to its meaning and the
other links are followed to what they lead to, so is the list of all of them. -/
theorem follow_cons (bindings : Option Bindings) (value : Int) (link : Link) (rest : List Link)
    (operand : link.operand.ungroup.evaluate bindings = link.operand.ungroup.meaning bindings)
    (others : ∀ next, follow bindings next rest = meaningFrom bindings next rest) :
    follow bindings value (link :: rest) = meaningFrom bindings value (link :: rest) := by
  rw [follow, operand, meaning_ungroup, meaningFrom]
  cases link.operand.meaning bindings with
  | error cause => rfl
  | ok second =>
    show (operate link.op value second link.operand.place >>= _) =
      (operate link.op value second link.operand.place >>= _)
    cases operate link.op value second link.operand.place with
    | error cause => rfl
    | ok next => exact others next

/-- The evaluator and its loop at once: a tree is evaluated to its meaning, and links are followed
to what they lead to. -/
theorem evaluate_and_follow (bindings : Option Bindings) :
    (∀ expr : Expr, expr.evaluate bindings = expr.meaning bindings) ∧
      ∀ value links, follow bindings value links = meaningFrom bindings value links := by
  apply evaluate.mutual_induct
  case case1 | case2 =>
    intros
    rw [evaluate, meaning]
  case case3 =>
    intro inner span innerEq
    rw [evaluate, innerEq, meaning_ungroup, meaning]
  case case4 =>
    intro left op right span chain headEq linksEq
    rw [evaluate, headEq, funext linksEq, meaning_unchain,
      ← meaning_binary_bind bindings left op right span, meaning_bind_nil]
  case case5 =>
    intro condition whenTrue whenFalse span conditionEq trueEq falseEq
    rw [evaluate, conditionEq, trueEq, falseEq, meaning_ungroup, meaning_ungroup,
      meaning_ungroup, meaning]
    cases condition.meaning bindings <;> rfl
  case case6 =>
    intro value
    rw [evaluate, meaning]
  case case7 =>
    intro value
    rw [follow, meaningFrom]
  case case8 =>
    intro value link rest operandEq restEq
    exact follow_cons bindings value link rest operandEq restEq

/-- Evaluation computes the meaning of every tree, however it was put together: the same value,
or the same first failure at the same place. -/
theorem evaluate_eq_meaning (bindings : Option Bindings) (expr : Expr) :
    expr.evaluate bindings = expr.meaning bindings :=
  (evaluate_and_follow bindings).1 expr

end IntExpr.Expr
