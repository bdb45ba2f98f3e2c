/-
This file proves which trees the parser makes of texts. A tree that is read has the shape that the
tiers and the places of conditionals give it, and its leaves are what a text can write. Conversely
a tree of this shape can be written: the tokens of its leaves, operators and parentheses, in order
and with spaces between them, are read as the tree again. So only the limit on nesting is left to
tell the trees that are parsed from some text.
-/

import IntExpr.Proofs.Composition
import IntExpr.Proofs.Layout

namespace IntExpr

/-! ### Shapes -/

namespace Expr

/-- The tier of an operation. -/
def tier? : Expr → Option Tier
  | binary _ op _ _ => some op.tier
  | _ => none

/-- The shape of a tree that is read from a text. Constants are not negative and short enough to
be written, and names are no keywords. A left operand may be an operation of the same tier, a
right operand only one of a tighter tier, and a conditional has to be in parentheses in either, as
in a condition and in a branch. -/
def Shaped : Expr → Prop
  | literal value _ => 0 ≤ value ∧ Decimal.Writable value
  | identifier name _ => IsWord name.toList ∧ name ≠ "declare" ∧ name ≠ "print"
  | group inner _ => inner.Shaped
  | binary left op right _ =>
    (left.Shaped ∧ left.isConditional = false ∧
      ∀ tier ∈ left.tier?, op.tier.strength ≤ tier.strength) ∧
    right.Shaped ∧ right.isConditional = false ∧
      ∀ tier ∈ right.tier?, op.tier.strength < tier.strength
  | conditional condition whenTrue whenFalse _ =>
    (condition.Shaped ∧ condition.isConditional = false) ∧
      (whenTrue.Shaped ∧ whenTrue.isConditional = false) ∧
      whenFalse.Shaped ∧ whenFalse.isConditional = false
  | foreign _ => False

@[simp] theorem tier?_withoutSpans (expr : Expr) : expr.withoutSpans.tier? = expr.tier? := by
  cases expr <;> rfl

/-- The shape of a tree has nothing to do with spans. -/
theorem shaped_withoutSpans (expr : Expr) : expr.withoutSpans.Shaped ↔ expr.Shaped := by
  induction expr with
  | literal | identifier | foreign => rfl
  | group _ _ inductionHypothesis => exact inductionHypothesis
  | binary _ _ _ _ leftHypothesis rightHypothesis =>
    simp [withoutSpans, Shaped, leftHypothesis, rightHypothesis]
  | conditional _ _ _ _ conditionHypothesis trueHypothesis falseHypothesis =>
    simp [withoutSpans, Shaped, conditionHypothesis, trueHypothesis, falseHypothesis]

theorem Alike.shaped_iff {first second : Expr} (alike : first.Alike second) :
    first.Shaped ↔ second.Shaped := by
  rw [← first.shaped_withoutSpans, alike, second.shaped_withoutSpans]

end Expr

/-! ### What is read is shaped -/

theorem ne_keyword_iff (name : String) :
    (∀ keyword ∈ keywords, keyword.1 ≠ name.toList) ↔ name ≠ "declare" ∧ name ≠ "print" := by
  simp only [keywords, List.forall_mem_cons, List.not_mem_nil, false_implies, implies_true,
    and_true, ne_eq, String.toList_inj]
  rw [eq_comm, @eq_comm _ "print"]

theorem Token.Alone.isWord {token : Token} (alone : token.Alone)
    (type : token.type = .identifier) :
    IsWord token.lexeme.toList ∧ token.lexeme ≠ "declare" ∧ token.lexeme ≠ "print" := by
  rw [← ne_keyword_iff]
  have found := alone.lexeme
  rw [type] at found
  generalize token.value = value at found
  cases found with
  | keyword _ _ _ listed => simp [keywords] at listed
  | identifier _ _ isWord unlisted => exact ⟨isWord, unlisted⟩
  | mark _ _ _ listed => simp [marks] at listed

namespace ReadAs

variable {level : Level} {tokens : List Token} {expr : Expr}

/-- An operation binds as tightly as the level wants that it is read at. -/
theorem strength_le_tier (reading : ReadAs level tokens expr) :
    ∀ tier ∈ expr.tier?, level.strength ≤ tier.strength := by
  induction reading with
  | integer | identifier | group => simp [Expr.tier?]
  | operand tier _ _ _ inductionHypothesis =>
    intro other here
    have tighter := inductionHypothesis other here
    rw [tier.tighter_strength] at tighter
    exact Nat.le_of_succ_le tighter
  | operation op =>
    rintro _ ⟨⟩
    exact Nat.le_refl op.tier.strength
  | unconditional => exact fun _ _ => Nat.zero_le _
  | conditional => exact fun _ _ => Nat.zero_le _

/-- What is read from tokens that are lexemes is shaped. -/
theorem shaped (reading : ReadAs level tokens expr) (alone : ∀ token ∈ tokens, token.Alone) :
    expr.Shaped := by
  induction reading with
  | integer token type =>
    have tokenAlone := alone token List.mem_cons_self
    exact ⟨Int.natCast_nonneg _, writable_number tokenAlone.lexeme tokenAlone.readable type⟩
  | identifier token type => exact (alone token List.mem_cons_self).isWord type
  | group _ _ _ _ _ _ _ inductionHypothesis =>
    simp only [List.cons_append, List.forall_mem_cons, List.forall_mem_append] at alone
    exact inductionHypothesis alone.2.1
  | operand _ _ _ _ inductionHypothesis => exact inductionHypothesis alone
  | operation op _ _ _ left right leftReading _ rightReading leftHypothesis rightHypothesis =>
    simp only [List.forall_mem_cons, List.forall_mem_append] at alone
    refine ⟨⟨leftHypothesis alone.1, leftReading.not_isConditional Level.noConfusion,
      leftReading.strength_le_tier⟩, rightHypothesis alone.2.2,
      rightReading.not_isConditional op.tier.tighter_ne_conditional, fun tier here => ?_⟩
    have tighter := rightReading.strength_le_tier tier here
    rwa [op.tier.tighter_strength] at tighter
  | unconditional _ _ _ inductionHypothesis => exact inductionHypothesis alone
  | conditional _ _ _ _ _ _ _ _ conditionReading _ trueReading _ falseReading conditionHypothesis
      trueHypothesis falseHypothesis =>
    simp only [List.forall_mem_cons, List.forall_mem_append] at alone
    exact ⟨⟨conditionHypothesis alone.1, conditionReading.not_isConditional Level.noConfusion⟩,
      ⟨trueHypothesis alone.2.2.1, trueReading.not_isConditional Level.noConfusion⟩,
      falseHypothesis alone.2.2.2.2, falseReading.not_isConditional Level.noConfusion⟩

end ReadAs

/-! ### What is shaped can be written -/

theorem Decimal.value_repr (number : Nat) : Decimal.value (Nat.repr number).toList = number := by
  have again : Nat.ofDigitChars 10 (Nat.toDigits 10 number) 0 = number :=
    Nat.ofDigitChars_ten_toDigits
  rw [Nat.ofDigitChars_eq_foldl] at again
  rw [Nat.toList_repr]
  exact again

theorem length_repr_le {number limit : Nat} (positive : 0 < limit)
    (below : number < Nat.pow 10 limit) : (Nat.repr number).length ≤ limit := by
  rw [← String.length_toList, Nat.toList_repr]
  exact (Nat.length_toDigits_le_iff (by decide) positive).2 below

/-- A number that is short enough to be written is a numeral that is short enough to be read. -/
theorem alone_repr {number : Nat} (short : Decimal.Writable number) :
    (Token.unplaced .integer (Nat.repr number)).Alone := by
  refine Token.alone_of_lexeme (.integer _ [] ?_ ?_ (by simp)) fun _ => ?_
  · rw [Nat.toList_repr]
    exact Nat.toDigits_ne_nil
  · rw [Nat.toList_repr]
    exact fun digit member => Nat.isDigit_of_mem_toDigits (by decide) (by decide) member
  · exact length_repr_le (by decide) short

namespace Expr

open Token (unplaced)

/-- The tokens that a tree is written as. -/
def tokens : Expr → List Token
  | literal value _ => [unplaced .integer (Nat.repr value.toNat)]
  | identifier name _ => [unplaced .identifier name]
  | group inner _ => unplaced .leftParen "(" :: inner.tokens ++ [unplaced .rightParen ")"]
  | binary left op right _ => left.tokens ++ unplaced (.operator op) op.symbol :: right.tokens
  | conditional condition whenTrue whenFalse _ =>
    condition.tokens ++ unplaced .question "?" ::
      (whenTrue.tokens ++ unplaced .colon ":" :: whenFalse.tokens)
  | foreign _ => []

theorem Shaped.alone {expr : Expr} (shaped : expr.Shaped) :
    ∀ token ∈ expr.tokens, token.Alone := by
  induction expr with
  | literal value =>
    obtain ⟨notNegative, writable⟩ := shaped
    obtain ⟨number, rfl⟩ := Int.eq_ofNat_of_zero_le notNegative
    exact List.forall_mem_singleton.2 (alone_repr writable)
  | identifier name =>
    have unlisted := (ne_keyword_iff name).2 shaped.2
    exact List.forall_mem_singleton.2
      (Token.alone_of_lexeme (.identifier _ [] shaped.1 unlisted (by simp)) (by simp))
  | group _ _ inductionHypothesis =>
    simp only [tokens, List.cons_append, List.forall_mem_cons, List.forall_mem_append]
    exact ⟨Token.alone_of_mem_marks (by decide), inductionHypothesis shaped,
      Token.alone_of_mem_marks (by decide), by simp⟩
  | binary _ op _ _ leftHypothesis rightHypothesis =>
    simp only [tokens, List.forall_mem_cons, List.forall_mem_append]
    exact ⟨leftHypothesis shaped.1.1, Token.alone_of_mem_marks (symbol_mem_marks op),
      rightHypothesis shaped.2.1⟩
  | conditional _ _ _ _ conditionHypothesis trueHypothesis falseHypothesis =>
    simp only [tokens, List.forall_mem_cons, List.forall_mem_append]
    exact ⟨conditionHypothesis shaped.1.1, Token.alone_of_mem_marks (by decide),
      trueHypothesis shaped.2.1.1, Token.alone_of_mem_marks (by decide),
      falseHypothesis shaped.2.2.1⟩
  | foreign => exact shaped.elim

/-- A tree fits in a level that admits its operation, and a conditional only in the loosest. -/
structure FitsIn (level : Level) (expr : Expr) : Prop where
  whole : expr.isConditional = true → level = .conditional
  tight : ∀ tier ∈ expr.tier?, level.strength ≤ tier.strength

theorem fitsIn_conditional (expr : Expr) : FitsIn .conditional expr :=
  ⟨fun _ => rfl, fun _ _ => Nat.zero_le _⟩

theorem fitsIn_of_not_isConditional {level : Level} {expr : Expr}
    (plain : expr.isConditional = false)
    (tight : ∀ tier ∈ expr.tier?, level.strength ≤ tier.strength) : FitsIn level expr :=
  ⟨fun whole => absurd whole (by rw [plain]; exact Bool.false_ne_true), tight⟩

end Expr

/-- A shaped tree is derived from its tokens at each level that it fits in. -/
theorem Expr.Shaped.derives {level : Level} {expr : Expr} (shaped : expr.Shaped)
    (fits : FitsIn level expr) : Derives level expr.tokens expr.withoutSpans := by
  -- A node is derived at the level of its own kind, which is at least as tight as the one it fits.
  induction expr generalizing level with
  | literal value =>
    obtain ⟨notNegative, _⟩ := shaped
    obtain ⟨number, rfl⟩ := Int.eq_ofNat_of_zero_le notNegative
    have leaf := Derives.integer (.unplaced .integer (Nat.repr number)) rfl
    have same : (Token.unplaced .integer (Nat.repr number)).number = number :=
      Decimal.value_repr number
    rw [same] at leaf
    exact leaf.loosen level.strength_le
  | identifier name =>
    exact (Derives.identifier (.unplaced .identifier name) rfl).loosen level.strength_le
  | group inner _ inductionHypothesis =>
    exact (Derives.group _ _ _ _ rfl (inductionHypothesis shaped inner.fitsIn_conditional)
      rfl).loosen level.strength_le
  | binary left op right _ leftHypothesis rightHypothesis =>
    obtain ⟨⟨leftShaped, leftPlain, leftTight⟩, rightShaped, rightPlain, rightTight⟩ := shaped
    have leftFits : FitsIn (.atLeast op.tier) left :=
      fitsIn_of_not_isConditional leftPlain leftTight
    have rightFits : FitsIn op.tier.tighter right := by
      refine fitsIn_of_not_isConditional rightPlain ?_
      rwa [op.tier.tighter_strength]
    exact (Derives.operation op _ _ _ _ _ (leftHypothesis leftShaped leftFits) rfl
      (rightHypothesis rightShaped rightFits)).loosen (fits.tight _ rfl)
  | conditional condition whenTrue whenFalse _ conditionHypothesis trueHypothesis
      falseHypothesis =>
    obtain ⟨⟨conditionShaped, conditionPlain⟩, ⟨trueShaped, truePlain⟩, falseShaped,
      falsePlain⟩ := shaped
    cases fits.whole rfl
    have fitsIn {part : Expr} (plain : part.isConditional = false) :
        FitsIn (.atLeast .logical) part := by
      refine fitsIn_of_not_isConditional plain fun tier _ => ?_
      cases tier <;> decide
    exact .conditional _ _ _ _ _ _ _ _ (conditionHypothesis conditionShaped (fitsIn conditionPlain))
      rfl (trueHypothesis trueShaped (fitsIn truePlain)) rfl
      (falseHypothesis falseShaped (fitsIn falsePlain))
  | foreign => exact shaped.elim

/-! ### The trees of texts -/

/-- The tree of a text is shaped, and does not nest too deeply. -/
theorem shaped_of_parseText {filename source : String} {expr : Expr}
    (parsed : parseText filename source = .ok expr) :
    expr.Shaped ∧ expr.nesting ≤ nestingLimit := by
  obtain ⟨tokens, last, tape, reading, shallow⟩ := (parseText_eq_ok_iff _ _ _).1 parsed
  exact ⟨reading.shaped (alone_of_textTape tape), shallow⟩

/-- A shaped tree that does not nest too deeply is what the text of its tokens, joined by spaces,
is parsed as. -/
theorem Expr.Shaped.exists_parseText {tree : Expr} (shaped : tree.Shaped)
    (shallow : tree.nesting ≤ nestingLimit) (filename : String) :
    ∃ expr, parseText filename (" ".intercalate (tree.tokens.map Token.lexeme)) = .ok expr ∧
      expr.Alike tree := by
  obtain ⟨moved, sameContent, spelled⟩ := Spells.ofSpread filename [] (fun _ => " ")
    shaped.alone (fun _ _ => .blank ' ' [] (by decide) .nil) .nil
  rw [List.append_nil, spread_const] at spelled
  have sameWords : SameWords moved tree.tokens := by
    have same := congrArg (List.map fun content => (content.1, content.2.2)) sameContent
    rwa [List.map_map, List.map_map] at same
  obtain ⟨expr, reading, alike⟩ :=
    ((shaped.derives tree.fitsIn_conditional).ofWords sameWords).exists_readAs
  have same : expr.Alike tree := by
    rw [Expr.Alike, alike]
  exact ⟨expr, spelled.exists_parseText reading (by rwa [same.nesting_eq]), same⟩

/-- The trees that texts are parsed as, spans aside, are those of the given shape that do not nest
deeper than the limit. That an operation has the tier of its operator is part of what it is to be a
tree: no operation is put together from an operator and another tier. -/
theorem parseText_range (filename : String) (tree : Expr) :
    ((∃ source expr, parseText filename source = .ok expr ∧ expr.Alike tree) ↔
      tree.Shaped ∧ tree.nesting ≤ nestingLimit) ∧
    ∀ left type right tier span expr, Expr.ofOperation left type right tier span = .ok expr ↔
      ∃ op, type = .operator op ∧ op.tier = tier ∧ expr = .binary left op right span := by
  refine ⟨⟨?_, ?_⟩, ?_⟩
  · rintro ⟨source, expr, parsed, alike⟩
    obtain ⟨shaped, shallow⟩ := shaped_of_parseText parsed
    exact ⟨alike.shaped_iff.1 shaped, by rwa [← alike.nesting_eq]⟩
  · rintro ⟨shaped, shallow⟩
    exact ⟨_, shaped.exists_parseText shallow filename⟩
  · intro left type right tier span expr
    cases type with
    | operator op =>
      rw [Expr.ofOperation]
      split
      · rename_i same
        simp [same, eq_comm]
      · rename_i other
        simp [other]
    | _ => simp [Expr.ofOperation]

end IntExpr
