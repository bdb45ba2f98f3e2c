/-
This file proves that what looking at the next token keeps, and letting go of a held one, all
reading keeps: advancing, draining, and parsing. A parser does no more with its state than what it
rests on does, so what that keeps is kept wherever the parser breaks off.
-/

import IntExpr.Parser
import IntExpr.Proofs.Steps
import IntExpr.Proofs.Tape

namespace IntExpr

/-! ### What reading keeps -/

namespace Scanner

/-- A property of scanners that does not get lost by looking at the next token, even if there is
none, nor by letting go of it. -/
structure ReadingKeeps (holds : Scanner → Prop) : Prop where
  look : Keeps holds look
  release : ∀ scanner : Scanner, holds scanner → holds { scanner with held := none }

variable {holds : Scanner → Prop} (kept : ReadingKeeps holds)

include kept

theorem ReadingKeeps.advance : Keeps holds advance := by
  intro scanner here
  unfold Scanner.advance
  rcases kept.look.cases here with ⟨token, after, looked, behind⟩ | ⟨cause, after, failed, behind⟩
  · rw [looked]
    by_cases isEnd : token.type = .endOfInput
    · simp only [if_pos isEnd]
      exact behind
    · simp only [if_neg isEnd]
      exact kept.release after behind
  · rw [failed]
    exact behind

theorem ReadingKeeps.drain : Keeps holds drain := by
  intro scanner here
  -- Each token that is let go of leaves less to read.
  induction size : scanner.unread using Nat.strongRecOn generalizing scanner with
  | _ size inductionHypothesis =>
    subst size
    rcases kept.look.cases here with ⟨token, after, looked, behind⟩ |
      ⟨cause, after, failed, behind⟩
    · by_cases isEnd : token.type = .endOfInput
      · rw [drain_of_look_end looked isEnd]
        exact behind
      · have others := inductionHypothesis _ (unread_lt_of_look looked isEnd) _
          (kept.release after behind) rfl
        rw [drain_of_look_more looked isEnd]
        cases drained : Scanner.drain { after with held := none } with
        | ok tokens final | error cause final =>
          rw [drained] at others
          exact others
    · rw [drain_of_look_error failed]
      exact behind

end Scanner

/-! ### What a parser keeps -/

namespace Parser

section

variable {State Grade : Type}

/-- A property of states that does not get lost in what a parser rests on. -/
structure StepsKeep (parser : Parser State Grade) (holds : State → Prop) : Prop where
  peek : Keeps holds parser.peek
  take : Keeps holds parser.take
  span : ∀ first last, Keeps holds (parser.span first last)
  deeper : ∀ step, Keeps holds step → Keeps holds (parser.deeper step)
  operandGrade : ∀ grade type, ∀ operation ∈ parser.operation grade type,
    Keeps holds operation.operandGrade
  combine : ∀ grade type, ∀ operation ∈ parser.operation grade type,
    ∀ left right span, Keeps holds (operation.combine left right span)

variable {parser : Parser State Grade} {holds : State → Prop} (kept : parser.StepsKeep holds)

theorem keeps_fault {Result : Type} (cause : GrammarError) :
    Keeps holds (fault cause : EStateM ParseError State Result) := keeps_throw _

include kept

theorem keeps_expect (type : TokenType) : Keeps holds (parser.expect type) := by
  refine kept.peek.bind fun token => ?_
  by_cases fits : token.type = type
  · rw [if_pos fits]
    exact kept.take
  · rw [if_neg fits]
    exact kept.peek.bind fun found => keeps_fault _

theorem keeps_operand {inner : EStateM ParseError State Expr} (innerKept : Keeps holds inner) :
    Keeps holds (parser.operand inner) := by
  refine kept.peek.bind fun token => ?_
  cases token.type with
  | integer | identifier => exact kept.take.bind fun _ => keeps_pure _
  | leftParen =>
    refine kept.take.bind fun _ => innerKept.bind fun expr => ?_
    exact (keeps_expect kept .rightParen).bind fun closing => keeps_pure _
  | _ => exact keeps_fault _

theorem keeps_operators {operand : Grade → EStateM ParseError State Expr}
    (operandKept : ∀ grade, Keeps holds (operand grade)) (grade : Grade) (bound : Nat)
    (left : Expr) : Keeps holds (parser.operators operand grade bound left) := by
  induction bound generalizing left with
  | zero => exact keeps_pure left
  | succ bound inductionHypothesis =>
    refine kept.peek.bind fun token => ?_
    cases found : parser.operation grade token.type with
    | none => exact keeps_pure left
    | some operation =>
      refine kept.take.bind fun _ => (kept.operandGrade _ _ _ found).bind fun right => ?_
      refine (operandKept right).bind fun right => (kept.span left right).bind fun span => ?_
      exact (kept.combine _ _ _ found left right span).bind fun expr => inductionHypothesis expr

theorem keeps_branches {branch : EStateM ParseError State Expr} (branchKept : Keeps holds branch)
    (condition : Expr) : Keeps holds (parser.branches branch condition) := by
  refine kept.take.bind fun _ => branchKept.bind fun whenTrue => ?_
  refine (keeps_expect kept .colon).bind fun _ => branchKept.bind fun whenFalse => ?_
  exact (kept.span condition whenFalse).bind fun span => keeps_pure _

variable [DecidableEq Grade]

theorem keeps_suffix {branch : EStateM ParseError State Expr} (branchKept : Keeps holds branch)
    (grade : Grade) (expr : Expr) : Keeps holds (parser.suffix branch grade expr) := by
  unfold suffix
  by_cases loose : grade = parser.loosest
  · rw [if_pos loose]
    refine kept.peek.bind fun token => ?_
    by_cases question : token.type = .question
    · rw [if_pos question]
      exact keeps_branches kept branchKept expr
    · rw [if_neg question]
      exact keeps_pure expr
  · rw [if_neg loose]
    exact keeps_pure expr

variable {beyond : Grade → EStateM ParseError State Expr}
  (beyondKept : ∀ grade, Keeps holds (beyond grade))

include beyondKept

theorem keeps_expression (depth : Nat) (grade : Grade) :
    Keeps holds (parser.expression beyond depth grade) := by
  induction depth generalizing grade with
  | zero => exact beyondKept grade
  | succ depth inductionHypothesis =>
    refine kept.deeper _ ((keeps_operand kept (inductionHypothesis _)).bind fun first => ?_)
    have counted : Keeps holds (get : EStateM ParseError State State) := fun _ here => here
    refine counted.bind fun state => ?_
    exact (keeps_operators kept inductionHypothesis grade _ first).bind fun expr =>
      keeps_suffix kept (inductionHypothesis _) grade expr

theorem keeps_whole (depth : Nat) : Keeps holds (parser.whole beyond depth) := by
  refine (keeps_expression kept beyondKept depth _).bind fun expr => kept.peek.bind fun token => ?_
  by_cases isEnd : token.type = .endOfInput
  · rw [if_pos isEnd]
    exact keeps_pure expr
  · rw [if_neg isEnd]
    exact kept.peek.bind fun found => keeps_fault _

end

end Parser

/-! ### What parsing a text keeps -/

namespace Parse

variable {holds : Scanner → Prop}

theorem keeps_ofScan {Result : Type} {step : Scan Result} (stepKept : Keeps holds step) :
    Keeps holds (ofScan step) := by
  intro scanner here
  have same : endState (ofScan step scanner) = endState (step scanner) := by
    unfold ofScan
    cases step scanner <;> rfl
  rw [same]
  exact stepKept scanner here

/-- The parser does no more with a scanner than look and advance. -/
theorem stepsKeep (kept : Scanner.ReadingKeeps holds) : parser.StepsKeep holds where
  peek := keeps_ofScan kept.look
  take := (keeps_ofScan kept.look).bind fun _ => (keeps_ofScan kept.advance).bind fun _ =>
    keeps_pure _
  span _ _ := keeps_pure _
  deeper _ stepKept := stepKept
  operandGrade level type operation found := by
    obtain ⟨op, _, _, rfl⟩ := Level.eq_of_mem_operation found
    exact keeps_pure _
  combine level type operation found _ _ _ := by
    obtain ⟨op, _, _, rfl⟩ := Level.eq_of_mem_operation found
    exact keeps_pure _

end Parse

/-- A property that reading keeps and that a scanner has at the start of a text, it has wherever the
parser leaves off in the text. -/
theorem endState_parse {holds : Scanner → Prop} (kept : Scanner.ReadingKeeps holds)
    {scanner : Scanner} {source : String} (here : holds (scanner.restart source)) :
    holds (endState (parse source scanner)) := by
  have tooDeepKept (level : Level) : Keeps holds (Parse.parser.tooDeep level) :=
    (Parse.stepsKeep kept).peek.bind fun _ => keeps_throw _
  exact Parser.keeps_whole (Parse.stepsKeep kept) tooDeepKept nestingLimit _ here

end IntExpr
