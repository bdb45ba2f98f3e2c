/-
This file proves that where tokens stand makes no difference to the grammar. A token is read by its
type and its value, its word, and two rows of tokens with the same words are read as trees that
are alike. In the same way they are stuck at the same place and for the same cause, whatever
token of a type is found there.
-/

import IntExpr.Proofs.Acceptance

namespace IntExpr

/-- What a token is and stands for, wherever it stands and however it is written. -/
def Token.word (token : Token) : TokenType × TokenValue := (token.type, token.value)

namespace Token

theorem type_eq_of_word {first second : Token} (same : first.word = second.word) :
    first.type = second.type :=
  congrArg Prod.fst same

theorem number_eq_of_word {first second : Token} (same : first.word = second.word)
    (type : second.type = .integer) : first.number = second.number := by
  have value := congrArg Prod.snd same
  simp only [word, Token.value, type_eq_of_word same, type] at value
  exact TokenValue.number.inj value

theorem lexeme_eq_of_word {first second : Token} (same : first.word = second.word)
    (type : second.type = .identifier) : first.lexeme = second.lexeme := by
  have value := congrArg Prod.snd same
  simp only [word, Token.value, type_eq_of_word same, type] at value
  exact TokenValue.name.inj value

end Token

/-- Rows of tokens with the same words. -/
def SameWords (first second : List Token) : Prop :=
  first.map Token.word = second.map Token.word

namespace SameWords

variable {others first second : List Token} {token : Token}

theorem eq_nil (same : SameWords others []) : others = [] := List.map_eq_nil_iff.1 same

theorem exists_cons (same : SameWords others (token :: second)) :
    ∃ other rest, others = other :: rest ∧ other.word = token.word ∧ SameWords rest second :=
  List.map_eq_cons_iff.1 same

theorem exists_singleton (same : SameWords others [token]) :
    ∃ other, others = [other] ∧ other.word = token.word := by
  obtain ⟨other, _, rfl, sameWord, rest⟩ := same.exists_cons
  obtain rfl := rest.eq_nil
  exact ⟨other, rfl, sameWord⟩

theorem exists_append (same : SameWords others (first ++ second)) :
    ∃ front back, others = front ++ back ∧ SameWords front first ∧ SameWords back second :=
  List.map_eq_append_iff.1 (same.trans List.map_append)

end SameWords

/-! ### Trees that are alike -/

namespace Expr

theorem Alike.nesting_eq {first second : Expr} (alike : first.Alike second) :
    first.nesting = second.nesting := by
  rw [← first.nesting_withoutSpans, alike, second.nesting_withoutSpans]

theorem Alike.nestingBelow_eq {first second : Expr} (alike : first.Alike second) :
    first.nestingBelow = second.nestingBelow :=
  Nat.succ.inj alike.nesting_eq

section

variable {expr first second third : Expr} {op : Operator} {value : Int} {span : Option Span}

theorem Alike.exists_literal (alike : expr.Alike (literal value span)) :
    ∃ place, expr = literal value place := by
  cases expr <;> cases alike
  exact ⟨_, rfl⟩

theorem Alike.exists_group (alike : expr.Alike (group first span)) :
    ∃ inner place, expr = group inner place ∧ inner.Alike first := by
  cases expr <;> injection alike
  exact ⟨_, _, rfl, ‹_›⟩

theorem Alike.exists_binary (alike : expr.Alike (binary first op second span)) :
    ∃ left right place, expr = binary left op right place ∧ left.Alike first ∧
      right.Alike second := by
  cases expr <;> injection alike
  subst op
  exact ⟨_, _, _, rfl, ‹_›, ‹_›⟩

theorem Alike.exists_conditional (alike : expr.Alike (conditional first second third span)) :
    ∃ condition whenTrue whenFalse place,
      expr = conditional condition whenTrue whenFalse place ∧ condition.Alike first ∧
        whenTrue.Alike second ∧ whenFalse.Alike third := by
  cases expr <;> injection alike
  exact ⟨_, _, _, _, rfl, ‹_›, ‹_›, ‹_›⟩

end

@[simp] theorem isConditional_withoutSpans (expr : Expr) :
    expr.withoutSpans.isConditional = expr.isConditional := by
  cases expr <;> rfl

theorem Alike.isConditional_eq {first second : Expr} (alike : first.Alike second) :
    first.isConditional = second.isConditional := by
  rw [← first.isConditional_withoutSpans, alike, second.isConditional_withoutSpans]

end Expr

theorem Level.StopsBefore.ofAlike {level : Level} {first second : Expr} {type : TokenType}
    (stops : level.StopsBefore first type) (alike : second.Alike first) :
    level.StopsBefore second type :=
  ⟨stops.1, fun loose isQuestion => alike.isConditional_eq.trans (stops.2 loose isQuestion)⟩

/-! ### The same words in the grammar -/

/-- Rows of tokens with the same words derive the same trees. -/
theorem Derives.ofWords {level : Level} {tokens others : List Token} {tree : Expr}
    (derivation : Derives level tokens tree)
    (same : SameWords others tokens) : Derives level others tree := by
  induction derivation generalizing others with
  | integer token type =>
    obtain ⟨other, rfl, sameWord⟩ := same.exists_singleton
    rw [← Token.number_eq_of_word sameWord type]
    exact .integer other ((Token.type_eq_of_word sameWord).trans type)
  | identifier token type =>
    obtain ⟨other, rfl, sameWord⟩ := same.exists_singleton
    rw [← Token.lexeme_eq_of_word sameWord type]
    exact .identifier other ((Token.type_eq_of_word sameWord).trans type)
  | group opening closing tokens inner openingType _ closingType inductionHypothesis =>
    obtain ⟨first, last, rfl, sameFirst, sameLast⟩ := same.exists_append
    obtain ⟨openingOther, tokensOther, rfl, sameOpening, sameTokens⟩ :=
      sameFirst.exists_cons
    obtain ⟨closingOther, rfl, sameClosing⟩ := sameLast.exists_singleton
    exact .group openingOther closingOther tokensOther inner
      ((Token.type_eq_of_word sameOpening).trans openingType) (inductionHypothesis sameTokens)
      ((Token.type_eq_of_word sameClosing).trans closingType)
  | operand tier _ expr _ inductionHypothesis =>
    exact .operand tier others expr (inductionHypothesis same)
  | operation op sign _ _ left right _ signType _ leftHypothesis rightHypothesis =>
    obtain ⟨leftOther, rest, rfl, sameLeft, sameRest⟩ := same.exists_append
    obtain ⟨signOther, rightOther, rfl, sameSign, sameRight⟩ := sameRest.exists_cons
    exact .operation op signOther leftOther rightOther left right (leftHypothesis sameLeft)
      ((Token.type_eq_of_word sameSign).trans signType) (rightHypothesis sameRight)
  | unconditional _ expr _ inductionHypothesis =>
    exact .unconditional others expr (inductionHypothesis same)
  | conditional question colon _ _ _ condition whenTrue whenFalse _ questionType _ colonType _
      conditionHypothesis trueHypothesis falseHypothesis =>
    obtain ⟨conditionOther, rest, rfl, sameCondition, sameRest⟩ := same.exists_append
    obtain ⟨questionOther, rest, rfl, sameQuestion, sameRest⟩ := sameRest.exists_cons
    obtain ⟨trueOther, rest, rfl, sameTrue, sameRest⟩ := sameRest.exists_append
    obtain ⟨colonOther, falseOther, rfl, sameColon, sameFalse⟩ := sameRest.exists_cons
    exact .conditional questionOther colonOther conditionOther trueOther falseOther condition
      whenTrue whenFalse (conditionHypothesis sameCondition)
      ((Token.type_eq_of_word sameQuestion).trans questionType) (trueHypothesis sameTrue)
      ((Token.type_eq_of_word sameColon).trans colonType) (falseHypothesis sameFalse)

/-- Rows of tokens with the same words are read as trees that are alike. -/
theorem ReadAs.ofWords {level : Level} {tokens others : List Token} {expr : Expr}
    (reading : ReadAs level tokens expr)
    (same : SameWords others tokens) :
    ∃ other, ReadAs level others other ∧ other.Alike expr :=
  (reading.derives.ofWords same).exists_readAs

/-! ### The same words where the grammar is stuck -/

section

variable {depth : Nat} {level inner : Level} {before others : List Token}

theorem Opens.ofWords (opens : Opens depth level before inner)
    (same : SameWords others before) : Opens depth level others inner := by
  cases opens with
  | group _ opening openingType =>
    obtain ⟨openingOther, rfl, sameOpening⟩ := same.exists_singleton
    exact .group level openingOther ((Token.type_eq_of_word sameOpening).trans openingType)
  | rightOperand _ op sign leftTokens left leftReading leftShallow signType admitted =>
    obtain ⟨leftOther, last, rfl, sameLeft, sameLast⟩ := same.exists_append
    obtain ⟨signOther, rfl, sameSign⟩ := sameLast.exists_singleton
    obtain ⟨other, reading, alike⟩ := leftReading.ofWords sameLeft
    exact .rightOperand level op signOther leftOther other reading
      (by rwa [alike.nestingBelow_eq]) ((Token.type_eq_of_word sameSign).trans signType) admitted
  | whenTrue question conditionTokens condition conditionReading conditionShallow questionType =>
    obtain ⟨conditionOther, last, rfl, sameCondition, sameLast⟩ := same.exists_append
    obtain ⟨questionOther, rfl, sameQuestion⟩ := sameLast.exists_singleton
    obtain ⟨other, reading, alike⟩ := conditionReading.ofWords sameCondition
    exact .whenTrue questionOther conditionOther other reading (by rwa [alike.nestingBelow_eq])
      ((Token.type_eq_of_word sameQuestion).trans questionType)
  | whenFalse question colon conditionTokens trueTokens condition whenTrue conditionReading
      conditionShallow questionType trueReading trueShallow colonType =>
    obtain ⟨conditionOther, rest, rfl, sameCondition, sameRest⟩ := same.exists_append
    obtain ⟨questionOther, rest, rfl, sameQuestion, sameRest⟩ := sameRest.exists_cons
    obtain ⟨trueOther, last, rfl, sameTrue, sameLast⟩ := sameRest.exists_append
    obtain ⟨colonOther, rfl, sameColon⟩ := sameLast.exists_singleton
    obtain ⟨other, reading, alike⟩ := conditionReading.ofWords sameCondition
    obtain ⟨trueTree, trueOtherReading, trueAlike⟩ := trueReading.ofWords sameTrue
    exact .whenFalse questionOther colonOther conditionOther trueOther other trueTree reading
      (by rwa [alike.nestingBelow_eq]) ((Token.type_eq_of_word sameQuestion).trans questionType)
      trueOtherReading (by rwa [trueAlike.nesting_eq])
      ((Token.type_eq_of_word sameColon).trans colonType)

variable {cause : GrammarError} {found : Token}

theorem Halts.ofWords (halts : Halts depth level before cause)
    (same : SameWords others before)
    (sameType : found.type = cause.found.type) :
    Halts depth level others (cause.refound found) := by
  cases halts with
  | tooDeep =>
    obtain rfl := same.eq_nil
    exact .tooDeep level found
  | noOperand depth _ _ refused =>
    obtain rfl := same.eq_nil
    exact .noOperand depth level found (by rw [sameType]; exact refused)
  | unclosed depth _ opening tokens inner _ openingType reading shallow stops refused =>
    obtain ⟨openingOther, innerOther, rfl, sameOpening, sameInner⟩ := same.exists_cons
    obtain ⟨other, otherReading, alike⟩ := reading.ofWords sameInner
    exact .unclosed depth level openingOther innerOther other found
      ((Token.type_eq_of_word sameOpening).trans openingType) otherReading
      (by rwa [alike.nesting_eq]) (by rw [sameType]; exact stops.ofAlike alike)
      (by rw [sameType]; exact refused)
  | noColon depth question conditionTokens trueTokens condition whenTrue _ conditionReading
      conditionShallow questionType trueReading trueShallow stops refused =>
    obtain ⟨conditionOther, rest, rfl, sameCondition, sameRest⟩ := same.exists_append
    obtain ⟨questionOther, trueOther, rfl, sameQuestion, sameTrue⟩ :=
      sameRest.exists_cons
    obtain ⟨other, reading, alike⟩ := conditionReading.ofWords sameCondition
    obtain ⟨trueTree, trueOtherReading, trueAlike⟩ := trueReading.ofWords sameTrue
    exact .noColon depth questionOther conditionOther trueOther other trueTree found reading
      (by rwa [alike.nestingBelow_eq]) ((Token.type_eq_of_word sameQuestion).trans questionType)
      trueOtherReading (by rwa [trueAlike.nesting_eq])
      (by rw [sameType]; exact stops.ofAlike trueAlike) (by rw [sameType]; exact refused)

/-- Behind rows of tokens with the same words reading is stuck for the same cause. -/
theorem Stuck.ofWords (stuck : Stuck depth level before cause)
    (same : SameWords others before)
    (sameType : found.type = cause.found.type) :
    Stuck depth level others (cause.refound found) := by
  induction stuck generalizing others with
  | here halts => exact .here (halts.ofWords same sameType)
  | inside opens stuck inductionHypothesis =>
    obtain ⟨context, inside, rfl, sameContext, sameInside⟩ := same.exists_append
    exact .inside (opens.ofWords sameContext) (inductionHypothesis sameInside sameType)

/-- Behind rows of tokens with the same words a whole tape is given up for the same cause. -/
theorem Rejected.ofWords (rejected : Rejected before cause)
    (same : SameWords others before)
    (sameType : found.type = cause.found.type) : Rejected others (cause.refound found) := by
  cases rejected with
  | stuck _ stuck => exact .stuck _ (stuck.ofWords same sameType)
  | trailing expr _ reading shallow stops more =>
    obtain ⟨other, otherReading, alike⟩ := reading.ofWords same
    exact .trailing other found otherReading (by rwa [alike.nesting_eq])
      (by rw [sameType]; exact stops.ofAlike alike) (by rw [sameType]; exact more)

end

end IntExpr
