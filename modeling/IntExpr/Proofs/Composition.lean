/-
This file proves that calculating is compositional on texts. Two texts in parentheses with an
operator between them make a text with the value of the operator on the values of the two, and
three texts in parentheses make a conditional in the same way. The parentheses are closed on a
line of their own, since a text may end in a comment. Apart from the place that it names, what
is reported of a failure is the same too.
-/

import IntExpr.Calculation
import IntExpr.Proofs.Parts
import IntExpr.Proofs.Spelling

namespace IntExpr

/-! ### Texts made of texts -/

/-- An operation whose operands are two texts. -/
def operationText (first : String) (op : Operator) (second : String) : String :=
  "(" ++ first ++ "\n)" ++ op.symbol ++ "(" ++ second ++ "\n)"

/-- A conditional whose condition and branches are three texts. -/
def choiceText (condition whenTrue whenFalse : String) : String :=
  "(" ++ condition ++ "\n)?(" ++ whenTrue ++ "\n):(" ++ whenFalse ++ "\n)"

theorem symbol_mem_marks (op : Operator) : (op.symbol.toList, .operator op) ∈ marks := by
  cases op <;> decide

section

variable {filename otherName source : String} {more : List Char} {others : List Token}
  {expr : Expr}

/-- A text that spells the tokens of an expression that does not nest too deeply is parsed as
that expression. -/
theorem Spells.exists_parseText {tokens : List Token}
    (spelled : Spells filename [] source.toList tokens) (reading : ReadAs .conditional tokens expr)
    (shallow : expr.nesting ≤ nestingLimit) : parseText filename source = .ok expr := by
  obtain ⟨last, scanned⟩ := (spells_iff _ _ _).1 spelled
  exact (parseText_eq_ok_iff _ _ _).2 ⟨tokens, last, scanned, reading, shallow⟩

/-- A text is parsed as the same tree under every name, spans aside. -/
theorem parseText_rename (parsed : parseText otherName source = .ok expr) (filename : String) :
    ∃ other, parseText filename source = .ok other ∧ other.Alike expr := by
  obtain ⟨tokens, last, scanned, reading, shallow⟩ := (parseText_eq_ok_iff _ _ _).1 parsed
  have spelled := (spells_iff _ _ _).2 ⟨last, scanned⟩
  obtain ⟨moved, sameWords, renamed⟩ := spelled.embed [] [] (by simp) (.nil filename _)
  obtain ⟨other, otherReading, alike⟩ := reading.ofWords sameWords
  exact ⟨other, Spells.exists_parseText (by simpa using renamed) otherReading
    (by rwa [alike.nesting_eq]), alike⟩

/-- A text that is parsed as a tree is read as a group in parentheses. -/
theorem exists_group (before : List Char) (parsed : parseText otherName source = .ok expr)
    (behind : Spells filename (before ++ '(' :: (source.toList ++ ['\n', ')'])) more others) :
    ∃ tokens group, ReadAs .primary tokens group ∧ group.Alike (.group expr none) ∧
      Spells filename before ('(' :: (source.toList ++ '\n' :: ')' :: more))
        (tokens ++ others) := by
  obtain ⟨tokens, last, scanned, reading, _⟩ := (parseText_eq_ok_iff _ _ _).1 parsed
  have spelled := (spells_iff _ _ _).2 ⟨last, scanned⟩
  obtain ⟨closing, closingType, closed⟩ := Spells.ofMark
    (before ++ '(' :: (source.toList ++ ['\n'])) (lexeme_rightParen more) (by decide)
    (by simpa using behind)
  have newLine : Gap ['\n'] ([')'] ++ more) := .blank '\n' [] _ (by decide) (.nil _)
  obtain ⟨moved, sameWords, inside⟩ := spelled.embed (before ++ ['(']) ('\n' :: ')' :: more)
    (by simp) (.ofGap newLine (by simpa using closed))
  obtain ⟨opening, openingType, opened⟩ :=
    Spells.ofMark before (lexeme_leftParen _) (by decide) inside
  obtain ⟨inner, innerReading, alike⟩ := reading.ofWords sameWords
  refine ⟨_, _, .group opening closing moved inner openingType innerReading closingType, ?_,
    by simpa using opened⟩
  exact congrArg (Expr.group · none) alike

end

section

variable {filename first second third : String} {left right other : Expr}

/-- A group is an expression of any level. -/
theorem ReadAs.ofPrimary {tokens : List Token} {expr : Expr} (level : Level)
    (reading : ReadAs .primary tokens expr) : ReadAs level tokens expr :=
  reading.loosen level.strength_le

/-- Two texts with an operator between them are parsed as an operation on their trees. -/
theorem parseText_operationText (op : Operator) (leftParsed : parseText filename first = .ok left)
    (rightParsed : parseText filename second = .ok right)
    (leftShallow : left.nesting + 1 ≤ nestingLimit)
    (rightShallow : right.nesting + 2 ≤ nestingLimit) :
    ∃ whole, parseText filename (operationText first op second) = .ok whole ∧
      whole.Alike (.binary (.group left none) op (.group right none) none) := by
  obtain ⟨rightTokens, rightGroup, rightReading, rightAlike, afterRight⟩ :=
    exists_group ('(' :: (first.toList ++ ['\n', ')']) ++ op.symbol.toList) rightParsed
      (.nil filename _)
  obtain ⟨sign, signType, afterSign⟩ := Spells.ofMark _
    (lexeme_of_mem_marks (symbol_mem_marks op) (by simp [separates_leftParen])) (by simp) afterRight
  obtain ⟨leftTokens, leftGroup, leftReading, leftAlike, spelled⟩ :=
    exists_group [] leftParsed afterSign
  have reading := ReadAs.operation op sign leftTokens rightTokens leftGroup rightGroup
    (leftReading.ofPrimary _) signType (rightReading.ofPrimary _)
  have alike : Expr.Alike (.binary leftGroup op rightGroup
      (Span.cover leftGroup.span rightGroup.span))
      (.binary (.group left none) op (.group right none) none) :=
    congrArg₂ (Expr.binary · op · none) leftAlike rightAlike
  refine ⟨_, Spells.exists_parseText (by simpa [operationText] using spelled)
    (reading.loosen (Nat.zero_le _)) ?_, alike⟩
  rw [alike.nesting_eq]
  simp only [Expr.nesting, Expr.nestingBelow] at leftShallow rightShallow ⊢
  omega

/-- Three texts that make a conditional are parsed as one with their trees. -/
theorem parseText_choiceText (leftParsed : parseText filename first = .ok left)
    (rightParsed : parseText filename second = .ok right)
    (otherParsed : parseText filename third = .ok other)
    (leftShallow : left.nesting + 1 ≤ nestingLimit)
    (rightShallow : right.nesting + 2 ≤ nestingLimit)
    (otherShallow : other.nesting + 2 ≤ nestingLimit) :
    ∃ whole, parseText filename (choiceText first second third) = .ok whole ∧
      whole.Alike (.conditional (.group left none) (.group right none) (.group other none)
        none) := by
  have colonListed : ([':'], TokenType.colon) ∈ marks := by decide
  obtain ⟨falseTokens, falseGroup, falseReading, falseAlike, afterFalse⟩ :=
    exists_group ('(' :: (first.toList ++ ['\n', ')']) ++ ['?'] ++
      '(' :: (second.toList ++ ['\n', ')']) ++ [':']) otherParsed (.nil filename _)
  obtain ⟨colon, colonType, afterColon⟩ := Spells.ofMark _
    (lexeme_of_mem_marks colonListed (by simp [separates_leftParen])) (by decide) afterFalse
  obtain ⟨trueTokens, trueGroup, trueReading, trueAlike, afterTrue⟩ :=
    exists_group _ rightParsed afterColon
  obtain ⟨question, questionType, afterQuestion⟩ :=
    Spells.ofMark _ (lexeme_question _) (by decide) afterTrue
  obtain ⟨conditionTokens, conditionGroup, conditionReading, conditionAlike, spelled⟩ :=
    exists_group [] leftParsed afterQuestion
  have reading := ReadAs.conditional question colon conditionTokens trueTokens falseTokens
    conditionGroup trueGroup falseGroup (conditionReading.ofPrimary _) questionType
    (trueReading.ofPrimary _) colonType (falseReading.ofPrimary _)
  have alike : Expr.Alike (.conditional conditionGroup trueGroup falseGroup
      (Span.cover conditionGroup.span falseGroup.span))
      (.conditional (.group left none) (.group right none) (.group other none) none) := by
    simp only [Expr.Alike, Expr.withoutSpans] at conditionAlike trueAlike falseAlike ⊢
    rw [conditionAlike, trueAlike, falseAlike]
  refine ⟨_, Spells.exists_parseText (by simpa [choiceText] using spelled) reading ?_, alike⟩
  rw [alike.nesting_eq]
  simp only [Expr.nesting, Expr.nestingBelow] at leftShallow rightShallow otherShallow ⊢
  omega

end

/-! ### Values of texts made of texts -/

/-- What is said in a report, without the place. -/
def Report.withoutPlace : Report → Report
  | diagnosed fault diagnostic => diagnosed fault { diagnostic with location := none }
  | report => report

/-- The value of a text, or what is reported of its failure without the place. -/
def valueOrReport (source : String) (symbols : List (String × Int)) : Except Report Int :=
  (calculateText source symbols).mapError (·.report.withoutPlace)

/-- The value of an operation, or what is reported of its failure without a place. -/
def operateOrReport (op : Operator) (left right : Int) : Except Report Int :=
  (operate op left right none).mapError (·.report.withoutPlace)

/-- A report without its place does not depend on the place of its cause. -/
theorem withoutPlace_report (cause : EvaluationError) :
    cause.withoutPlace.report.withoutPlace = cause.report.withoutPlace := by
  cases cause with
  | refused refusal place =>
    cases refusal with
    | zeroDivisor => rfl
    | negativeShift count =>
      simp only [EvaluationError.withoutPlace, EvaluationError.report, Diagnostic.negativeShift]
      cases Decimal.write count <;> rfl
    | shiftTooLarge count =>
      simp only [EvaluationError.withoutPlace, EvaluationError.report, Diagnostic.shiftTooLarge]
      cases Decimal.write count <;> rfl
  | unbound failure => rfl
  | notAnExpression value => rfl

/-- What a text comes to is what its tree without spans comes to. -/
theorem valueOrReport_of_parseText {source : String} {expr tree : Expr}
    (parsed : parseText inputName source = .ok expr) (alike : expr.Alike tree)
    (symbols : List (String × Int)) :
    valueOrReport source symbols =
      (tree.withoutSpans.evaluate (some (Bindings.ofList symbols))).mapError
        (·.report.withoutPlace) := by
  rw [← alike, Expr.evaluate_withoutSpans, valueOrReport, calculateText_of_ok symbols parsed]
  cases expr.evaluate (some (Bindings.ofList symbols)) with
  | ok value => rfl
  | error cause => exact congrArg Except.error (withoutPlace_report cause).symm

end IntExpr
