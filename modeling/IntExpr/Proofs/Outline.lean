/-
This file proves what can be said of an outline without writing one. The loop that writes the lines
works through the nodes of a tree in order, a parent before its children, and writes a line for
each. So an outline has nothing to do with spans, and it is refused only for a constant that is too
long to be written; the constants of a text that is parsed were read, and are not.
-/

import IntExpr.Expr.Outline
import IntExpr.Proofs.Acceptance
import IntExpr.Proofs.Tiling

namespace IntExpr

/-! ### The lines of nodes -/

/-- An operation's line. -/
def Operator.title (op : Operator) : String :=
  "BinaryOp '" ++ op.symbol ++ "' (" ++ op.tier.name ++ ")"

namespace Expr

/-- The line of a node without its indentation, however long a constant is. -/
def title : Expr → String
  | literal value _ => "IntegerLiteral " ++ Decimal.text value
  | identifier name _ => "Identifier " ++ name
  | group _ _ => "Parenthesized"
  | binary _ op _ _ => op.title
  | conditional _ _ _ _ => "Ternary"
  | foreign value => value.type

/-! ### The order of the lines -/

/-- The line of a node at its level. -/
def line (indent : String) (entry : Nat × Expr) : Except DigitLimitError String :=
  entry.2.headline.map (indentation indent entry.1 ++ ·)

theorem preorder_eq (level : Nat) (expr : Expr) :
    expr.preorder level = (level, expr) :: expr.children.flatMap (preorder (level + 1)) := by
  cases expr <;> simp [preorder, children]

/-- What a node hands down to its children all nodes of a tree have. -/
theorem forall_mem_preorder {holds : Expr → Prop}
    (inherited : ∀ node, holds node → ∀ child ∈ node.children, holds child) {expr : Expr}
    (here : holds expr) (level : Nat) : ∀ entry ∈ expr.preorder level, holds entry.2 := by
  induction expr generalizing level with
  | literal | identifier | foreign => simpa [preorder] using here
  | group inner span inductionHypothesis =>
    have below := inherited _ here
    simp only [children, List.forall_mem_cons] at below
    rw [preorder, List.forall_mem_cons]
    exact ⟨here, inductionHypothesis below.1 _⟩
  | binary left op right span leftHypothesis rightHypothesis =>
    have below := inherited _ here
    simp only [children, List.forall_mem_cons] at below
    rw [preorder, List.forall_mem_cons, List.forall_mem_append]
    exact ⟨here, leftHypothesis below.1 _, rightHypothesis below.2.1 _⟩
  | conditional condition whenTrue whenFalse span conditionHypothesis trueHypothesis
      falseHypothesis =>
    have below := inherited _ here
    simp only [children, List.forall_mem_cons] at below
    rw [preorder, List.forall_mem_cons, List.forall_mem_append, List.forall_mem_append]
    exact ⟨here, conditionHypothesis below.1 _, trueHypothesis below.2.1 _,
      falseHypothesis below.2.2.1 _⟩

/-- The lines are those of the nodes in order, unless one of them cannot be written. -/
theorem outlineLines_eq_mapM (indent : String) (pending : List (Nat × Expr)) :
    outlineLines indent pending =
      (pending.flatMap fun entry => entry.2.preorder entry.1).mapM (line indent) := by
  -- The loop puts the children of a node in front of what is pending, and so does `preorder_eq`.
  induction pending using outlineLines.induct indent with
  | case1 => rw [outlineLines]; rfl
  | case2 level expr pending refusal refused =>
    rw [outlineLines, refused, List.flatMap_cons, preorder_eq, List.cons_append, List.mapM_cons,
      line, refused]
    rfl
  | case3 level expr pending written headed refusal refused inductionHypothesis =>
    rw [outlineLines, headed, List.flatMap_cons, preorder_eq, List.cons_append, List.mapM_cons,
      line, headed]
    rw [List.flatMap_append, List.flatMap_map] at inductionHypothesis
    rw [← inductionHypothesis, refused]
    rfl
  | case4 level expr pending written headed lines others inductionHypothesis =>
    rw [outlineLines, headed, List.flatMap_cons, preorder_eq, List.cons_append, List.mapM_cons,
      line, headed]
    rw [List.flatMap_append, List.flatMap_map] at inductionHypothesis
    rw [← inductionHypothesis, others]
    rfl

theorem outline_eq_mapM (indent : String) (expr : Expr) :
    expr.outline indent =
      ((expr.preorder 0).mapM (line indent)).map (String.intercalate "\n") := by
  rw [outline, outlineLines_eq_mapM, List.flatMap_singleton]

/-! ### Spans are not written -/

@[simp] theorem line_withoutSpans (indent : String) (level : Nat) (expr : Expr) :
    line indent (level, expr.withoutSpans) = line indent (level, expr) := by
  cases expr <;> rfl

theorem preorder_withoutSpans (level : Nat) (expr : Expr) :
    expr.withoutSpans.preorder level =
      (expr.preorder level).map fun entry => (entry.1, entry.2.withoutSpans) := by
  induction expr generalizing level <;> simp_all [withoutSpans, preorder]

/-- Trees that are alike have the same outline. -/
theorem Alike.outline_eq {first second : Expr} (alike : first.Alike second) (indent : String) :
    first.outline indent = second.outline indent := by
  have lines : (line indent ∘ fun entry => (entry.1, entry.2.withoutSpans)) = line indent :=
    funext fun entry => line_withoutSpans indent entry.1 entry.2
  have bare (expr : Expr) : expr.withoutSpans.outline indent = expr.outline indent := by
    rw [outline_eq_mapM, outline_eq_mapM, preorder_withoutSpans, List.mapM_map, lines]
  rw [← bare first, ← bare second, alike]

/-! ### Constants that can be written -/

/-- Every constant in a tree is short enough to be written. -/
def Writable : Expr → Prop
  | literal value _ => Decimal.Writable value
  | group inner _ => inner.Writable
  | binary left _ right _ => left.Writable ∧ right.Writable
  | conditional condition whenTrue whenFalse _ =>
    condition.Writable ∧ whenTrue.Writable ∧ whenFalse.Writable
  | identifier _ _ | foreign _ => True

theorem Writable.children {expr : Expr} (writable : expr.Writable) :
    ∀ child ∈ expr.children, child.Writable := by
  cases expr <;> simp_all [Expr.children, Writable]

theorem Writable.headline_eq {expr : Expr} (writable : expr.Writable) :
    expr.headline = .ok expr.title := by
  cases expr with
  | literal value span =>
    have short : Decimal.Writable value := writable
    rw [headline, Decimal.write, if_pos short]
    rfl
  | _ => rfl

/-- The line of a node at its level, however long a constant is. -/
def margined (indent : String) (entry : Nat × Expr) : String :=
  indentation indent entry.1 ++ entry.2.title

theorem Writable.mapM_line {expr : Expr} (writable : expr.Writable) (indent : String)
    (level : Nat) :
    (expr.preorder level).mapM (line indent) =
      .ok ((expr.preorder level).map (margined indent)) := by
  have each := forall_mem_preorder (fun _ => Writable.children) writable level
  generalize expr.preorder level = entries at each
  induction entries with
  | nil => rfl
  | cons entry entries inductionHypothesis =>
    rw [List.forall_mem_cons] at each
    have written : line indent entry = .ok (margined indent entry) := by
      rw [line, each.1.headline_eq]
      rfl
    rw [List.mapM_cons, written, inductionHypothesis each.2]
    rfl

/-- The outline of a tree whose constants can be written has the lines of the nodes in order. -/
theorem Writable.outline_eq_intercalate {expr : Expr} (writable : expr.Writable)
    (indent : String) :
    expr.outline indent = .ok ("\n".intercalate ((expr.preorder 0).map (margined indent))) := by
  rw [outline_eq_mapM, writable.mapM_line]
  rfl

/-- A tree whose constants can be written has an outline. -/
theorem Writable.exists_outline {expr : Expr} (writable : expr.Writable) (indent : String) :
    ∃ text, expr.outline indent = .ok text :=
  ⟨_, writable.outline_eq_intercalate indent⟩

end Expr

/-! ### Constants that were read -/

theorem Decimal.digitValue_lt {digit : Char} (isDigit : digit.isDigit = true) :
    Decimal.digitValue digit < 10 := by
  simp only [Char.isDigit, Bool.and_eq_true, decide_eq_true_eq] at isDigit
  have highest : digit.val.toNat ≤ 57 := isDigit.2
  show digit.val.toNat - 48 < 10
  omega

/-- A row of so many digits stands for a number of at most so many digits. -/
theorem Decimal.value_lt_pow {digits : List Char} {limit : Nat}
    (allDigits : ∀ digit ∈ digits, digit.isDigit = true) (short : digits.length ≤ limit) :
    Decimal.value digits < Nat.pow 10 limit := by
  rw [Decimal.value_eq_ofDigits]
  have below : Nat.ofDigits 10 (digits.reverse.map Decimal.digitValue) <
      10 ^ (digits.reverse.map Decimal.digitValue).length := by
    refine Nat.ofDigits_lt_base_pow_length (by decide) fun value member => ?_
    obtain ⟨digit, isIn, rfl⟩ := List.mem_map.1 member
    exact Decimal.digitValue_lt (allDigits digit (List.mem_reverse.1 isIn))
  rw [List.length_map, List.length_reverse] at below
  exact below.trans_le (Nat.pow_le_pow_right (Nat.succ_pos 9) short)

/-- The tokens that tile a text are lexemes of it. -/
theorem Tiling.exists_lexeme_of_mem {filename : String} {before text rest : List Char}
    {tokens : List Token} (tiling : Tiling filename before text tokens rest) :
    ∀ token ∈ tokens, ∃ following,
      Lexeme token.type token.value token.lexeme.toList following := by
  induction tiling with
  | stop => simp
  | token _ _ following _ _ _ _ lexeme _ _ inductionHypothesis =>
    exact List.forall_mem_cons.2 ⟨⟨following, lexeme⟩, inductionHypothesis⟩

/-- A numeral that is not too long to be read has a value that is not too long to be written. -/
theorem writable_number {token : Token} {value : TokenValue} {following : List Char}
    (lexeme : Lexeme token.type value token.lexeme.toList following) (readable : Readable token)
    (type : token.type = .integer) : Decimal.Writable token.number := by
  have short : token.lexeme.toList.length ≤ digitLimit := readable type
  have allDigits : ∀ digit ∈ token.lexeme.toList, digit.isDigit = true := by
    rw [type] at lexeme
    cases lexeme with
    | integer _ _ _ allDigits => exact allDigits
    | keyword _ _ _ listed => simp [keywords] at listed
    | mark _ _ _ listed => simp [marks] at listed
  exact Decimal.value_lt_pow allDigits short

theorem ReadAs.writable {level : Level} {tokens : List Token} {expr : Expr}
    (reading : ReadAs level tokens expr)
    (short : ∀ token ∈ tokens, token.type = .integer → Decimal.Writable token.number) :
    expr.Writable := by
  induction reading with
  | integer token type => exact short token List.mem_cons_self type
  | identifier => trivial
  | group opening closing tokens inner _ _ _ inductionHypothesis =>
    simp only [List.cons_append, List.forall_mem_cons, List.forall_mem_append] at short
    exact inductionHypothesis short.2.1
  | operand _ _ _ _ inductionHypothesis => exact inductionHypothesis short
  | unconditional _ _ _ inductionHypothesis => exact inductionHypothesis short
  | operation _ _ _ _ _ _ _ _ _ leftHypothesis rightHypothesis =>
    simp only [List.forall_mem_cons, List.forall_mem_append] at short
    exact ⟨leftHypothesis short.1, rightHypothesis short.2.2⟩
  | conditional _ _ _ _ _ _ _ _ _ _ _ _ _ conditionHypothesis trueHypothesis falseHypothesis =>
    simp only [List.forall_mem_cons, List.forall_mem_append] at short
    exact ⟨conditionHypothesis short.1, trueHypothesis short.2.2.1,
      falseHypothesis short.2.2.2.2⟩

/-- The tree of a text has an outline. -/
theorem exists_outline_of_parseText {filename source : String} {expr : Expr}
    (parsed : parseText filename source = .ok expr) (indent : String) :
    ∃ text, expr.outline indent = .ok text := by
  obtain ⟨tokens, last, tape, reading, _⟩ := (parseText_eq_ok_iff _ _ _).1 parsed
  obtain ⟨_, _, _, tiling, readable, _⟩ := (textTape_eq_iff filename source tokens _).1 tape
  refine (reading.writable fun token member type => ?_).exists_outline indent
  obtain ⟨following, lexeme⟩ := tiling.exists_lexeme_of_mem token member
  exact writable_number lexeme (readable token member) type

end IntExpr
