/-
This file proves that two parsers come to the same if they rest on steps that come to the same.
Parsing is one program, so the proof follows it once, for any two parsers and any relation between
their states: it is enough that looking at a token, taking one, counting a level and finding out
about an operator go together. The loops over operators may have bounds of their own. What bounds
the one and the other is that they have the same tokens left, fewer with each that is taken.
-/

import IntExpr.Parser
import IntExpr.Proofs.Steps
import Mathlib.Order.Nat

namespace IntExpr

/-! ### Runs that go together -/

/-- Two runs come to the same: they return the same in states that are related, or they fail for
the same cause in states that are related for that cause. -/
inductive Paired {First Second Result : Type} (Good : Result → First → Second → Prop)
    (Bad : ParseError → First → Second → Prop) :
    EStateM.Result ParseError First Result → EStateM.Result ParseError Second Result → Prop
  | ok (result : Result) (first : First) (second : Second) (good : Good result first second) :
    Paired Good Bad (.ok result first) (.ok result second)
  | error (cause : ParseError) (first : First) (second : Second) (bad : Bad cause first second) :
    Paired Good Bad (.error cause first) (.error cause second)

section

variable {First Second Result Other : Type} {Good : Result → First → Second → Prop}
  {Between : Other → First → Second → Prop} {Bad : ParseError → First → Second → Prop}

theorem Paired.mono {Weaker : Result → First → Second → Prop}
    {one : EStateM.Result ParseError First Result} {other : EStateM.Result ParseError Second Result}
    (paired : Paired Good Bad one other)
    (weaker : ∀ result first second, Good result first second → Weaker result first second) :
    Paired Weaker Bad one other := by
  cases paired with
  | ok result first second good => exact .ok result first second (weaker result first second good)
  | error cause first second bad => exact .error cause first second bad

theorem Paired.bind {one : EStateM ParseError First Other} {other : EStateM ParseError Second Other}
    {others : Other → EStateM ParseError First Result}
    {otherOthers : Other → EStateM ParseError Second Result} {first : First} {second : Second}
    (paired : Paired Between Bad (one first) (other second))
    (continued : ∀ result first second, Between result first second →
      Paired Good Bad (others result first) (otherOthers result second)) :
    Paired Good Bad ((one >>= others) first) ((other >>= otherOthers) second) := by
  generalize ran : one first = left at paired
  generalize otherRan : other second = right at paired
  cases paired with
  | ok result first second good =>
    rw [bind_of_ok ran, bind_of_ok otherRan]
    exact continued result first second good
  | error cause first second bad =>
    rw [bind_of_error ran, bind_of_error otherRan]
    exact .error cause first second bad

end

namespace Parser

/-! ### States that go together -/

/-- How the states of two parsers are related. -/
structure Relation (First Second : Type) where
  /-- The states have the same ahead of them, and room for so many levels more. -/
  near : Nat → First → Second → Prop
  /-- The token that was taken last is at a place. -/
  endsAt : Location → First → Second → Prop
  /-- The number of tokens ahead. -/
  ahead : Second → Nat
  /-- The parsers have given up in the states for a cause. -/
  apart : ParseError → First → Second → Prop

section

variable {First Second FirstGrade SecondGrade : Type} (relation : Relation First Second)
  (one : Parser First FirstGrade) (other : Parser Second SecondGrade)

/-- What comes of looking at the next token: looking again shows the same, and nothing else has
changed. -/
structure Seen (room : Nat) (before : First) (otherBefore : Second) (token : Token) (first : First)
    (second : Second) : Prop where
  near : relation.near room first second
  again : one.peek first = .ok token first
  otherAgain : other.peek second = .ok token second
  ahead : relation.ahead second = relation.ahead otherBefore
  endsAt : ∀ place, relation.endsAt place before otherBefore → relation.endsAt place first second

/-- What comes of taking a token. -/
structure Taken (room tokens : Nat) (token taken : Token) (first : First) (second : Second) :
    Prop where
  same : taken = token
  near : relation.near room first second
  ahead : relation.ahead second < tokens
  endsAt : relation.endsAt token.location first second

/-- What comes of reading an expression: it ends in the token that was taken last. -/
structure Ended (room tokens : Nat) (expr : Expr) (first : First) (second : Second) : Prop where
  near : relation.near room first second
  ahead : relation.ahead second ≤ tokens
  endsAt : ∃ span, expr.span = some span ∧ relation.endsAt span.stop first second

/-- From related states two readings of an expression come to the same. -/
def Together (room : Nat) (step : EStateM ParseError First Expr)
    (otherStep : EStateM ParseError Second Expr) : Prop :=
  ∀ first second, relation.near room first second →
    Paired (Ended relation room (relation.ahead second)) relation.apart (step first)
      (otherStep second)

/-- What one parser knows of an operation the other knows as well. -/
structure SameOperation (grades : FirstGrade → SecondGrade → Prop)
    (operation : Operation First FirstGrade) (otherOperation : Operation Second SecondGrade) :
    Prop where
  operandGrade : ∃ grade otherGrade, operation.operandGrade = pure grade ∧
    otherOperation.operandGrade = pure otherGrade ∧ grades grade otherGrade
  combine : ∀ left right span, ∃ expr, expr.span = span ∧
    operation.combine left right span = pure expr ∧
    otherOperation.combine left right span = pure expr

/-- Two parsers rest on steps that go together. -/
structure Simulation (grades : FirstGrade → SecondGrade → Prop) : Prop where
  peek : ∀ {room first second}, relation.near room first second →
    Paired (Seen relation one other room first second) relation.apart (one.peek first)
      (other.peek second)
  take : ∀ {room token first second}, relation.near room first second →
    one.peek first = .ok token first → other.peek second = .ok token second →
    token.type ≠ .endOfInput →
    Paired (Taken relation room (relation.ahead second) token) relation.apart (one.take first)
      (other.take second)
  fault : ∀ {room first second}, relation.near room first second →
    ∀ cause, relation.apart (.grammar cause) first second
  span : ∀ {room first second}, relation.near room first second →
    ∀ {left right : Expr} {leftSpan rightSpan : Span}, left.span = some leftSpan →
      right.span = some rightSpan → relation.endsAt rightSpan.stop first second →
      one.span left right first = .ok (some ⟨leftSpan.start, rightSpan.stop⟩) first ∧
        other.span left right second = .ok (some ⟨leftSpan.start, rightSpan.stop⟩) second
  unread : ∀ {room first second}, relation.near room first second →
    relation.ahead second ≤ one.unread first ∧ relation.ahead second ≤ other.unread second
  deeper : ∀ {room step otherStep}, Together relation room step otherStep →
    Together relation (room + 1) (one.deeper step) (other.deeper otherStep)
  loosest : grades one.loosest other.loosest
  branch : grades one.branch other.branch
  loosest_iff : ∀ {grade otherGrade}, grades grade otherGrade →
    (grade = one.loosest ↔ otherGrade = other.loosest)
  operation : ∀ {grade otherGrade}, grades grade otherGrade → ∀ type,
    one.operation grade type = none ∧ other.operation otherGrade type = none ∨
      type ≠ .endOfInput ∧ ∃ operation otherOperation,
        one.operation grade type = some operation ∧
        other.operation otherGrade type = some otherOperation ∧
        SameOperation grades operation otherOperation

end

section

variable {First Second FirstGrade SecondGrade : Type} {relation : Relation First Second}
  {one : Parser First FirstGrade} {other : Parser Second SecondGrade} {room tokens : Nat}
  {expr : Expr} {first before : First} {second otherBefore : Second}

/-- Looking at the next token changes nothing of what has been read. -/
theorem Ended.ofSeen {token : Token} (ended : Ended relation room tokens expr before otherBefore)
    (seen : Seen relation one other room before otherBefore token first second) :
    Ended relation room tokens expr first second := by
  obtain ⟨span, same, ends⟩ := ended.endsAt
  exact ⟨seen.near, seen.ahead ▸ ended.ahead, span, same, seen.endsAt _ ends⟩

end

/-! ### Parsing goes together -/

namespace Simulation

variable {First Second FirstGrade SecondGrade : Type} {relation : Relation First Second}
  {one : Parser First FirstGrade} {other : Parser Second SecondGrade}
  {grades : FirstGrade → SecondGrade → Prop} (simulation : Simulation relation one other grades)
  {room tokens : Nat} {first : First} {second : Second}

include simulation

theorem paired_fault {Result : Type} {Good : Result → First → Second → Prop}
    (near : relation.near room first second) (cause : GrammarError) :
    Paired Good relation.apart (Parser.fault cause first) (Parser.fault cause second) :=
  .error _ first second (simulation.fault near cause)

theorem paired_expect (near : relation.near room first second) {type : TokenType}
    (more : type ≠ .endOfInput) :
    Paired
      (fun taken => Taken relation room (relation.ahead second) taken taken)
      relation.apart (one.expect type first) (other.expect type second) := by
  refine (simulation.peek near).bind fun token first' second' seen => ?_
  by_cases fits : token.type = type
  · rw [if_pos fits, if_pos fits, ← seen.ahead]
    refine (simulation.take seen.near seen.again seen.otherAgain (fits ▸ more)).mono
      fun taken first second took => ?_
    have same := took.same
    subst same
    exact took
  · rw [if_neg fits, if_neg fits, bind_of_ok seen.again, bind_of_ok seen.otherAgain]
    exact simulation.paired_fault seen.near _

/-- The same span is found for two expressions of which the second was read last. -/
theorem paired_span {left right : Expr} {before : First} {otherBefore : Second}
    {leftTokens : Nat} (leftEnded : Ended relation room leftTokens left before otherBefore)
    (rightEnded : Ended relation room tokens right first second) :
    ∃ span, one.span left right first = .ok (some span) first ∧
      other.span left right second = .ok (some span) second ∧
      relation.endsAt span.stop first second := by
  obtain ⟨leftSpan, leftSame, _⟩ := leftEnded.endsAt
  obtain ⟨rightSpan, rightSame, ends⟩ := rightEnded.endsAt
  obtain ⟨found, otherFound⟩ := simulation.span rightEnded.near leftSame rightSame ends
  exact ⟨_, found, otherFound, ends⟩

theorem together_operand {inner : EStateM ParseError First Expr}
    {otherInner : EStateM ParseError Second Expr}
    (together : Together relation room inner otherInner) :
    Together relation room (one.operand inner) (other.operand otherInner) := by
  intro first second near
  refine (simulation.peek near).bind fun token first second seen => ?_
  have take := simulation.take seen.near seen.again seen.otherAgain
  rw [seen.ahead] at take
  cases type : token.type with
  | integer | identifier =>
    refine (take (by rw [type]; decide)).bind fun taken first second took => ?_
    exact .ok _ first second ⟨took.near, took.ahead.le, _, rfl, took.endsAt⟩
  | leftParen =>
    refine (take (by rw [type]; decide)).bind fun taken first second took => ?_
    refine (together first second took.near).bind fun expr first second ended => ?_
    refine (simulation.paired_expect ended.near (by decide)).bind
      fun closing first second close => ?_
    refine .ok _ first second ⟨close.near, ?_, _, rfl, close.endsAt⟩
    exact (close.ahead.le.trans ended.ahead).trans took.ahead.le
  | _ => exact simulation.paired_fault seen.near _

/-- The loops over operators go together, whatever their bounds, if these are large enough. -/
theorem paired_operators {operand : FirstGrade → EStateM ParseError First Expr}
    {otherOperand : SecondGrade → EStateM ParseError Second Expr}
    (together : ∀ grade otherGrade, grades grade otherGrade →
      Together relation room (operand grade) (otherOperand otherGrade))
    {grade : FirstGrade} {otherGrade : SecondGrade} (same : grades grade otherGrade)
    (bound otherBound : Nat) {left : Expr} (ended : Ended relation room tokens left first second)
    (enough : relation.ahead second < bound) (otherEnough : relation.ahead second < otherBound) :
    Paired (Ended relation room tokens) relation.apart
      (one.operators operand grade bound left first)
      (other.operators otherOperand otherGrade otherBound left second) := by
  induction bound generalizing otherBound left first second with
  | zero => exact absurd enough (Nat.not_lt_zero _)
  | succ bound inductionHypothesis =>
    obtain ⟨otherBound, rfl⟩ := Nat.exists_eq_add_of_lt otherEnough
    refine (simulation.peek ended.near).bind fun token looked otherLooked seen => ?_
    have stays := ended.ofSeen seen
    obtain ⟨none, otherNone⟩ | ⟨more, operation, otherOperation, found, otherFound, known⟩ :=
      simulation.operation same token.type
    · rw [none, otherNone]
      exact .ok left looked otherLooked stays
    rw [found, otherFound]
    obtain ⟨right, otherRight, isRight, isOtherRight, sameRight⟩ := known.operandGrade
    refine (simulation.take seen.near seen.again seen.otherAgain more).bind
      fun _ first second took => ?_
    rw [isRight, isOtherRight, pure_bind, pure_bind]
    refine (together _ _ sameRight first second took.near).bind fun right first second last => ?_
    obtain ⟨span, spanned, otherSpanned, ends⟩ := simulation.paired_span stays last
    rw [bind_of_ok spanned, bind_of_ok otherSpanned]
    obtain ⟨expr, hasSpan, combined, otherCombined⟩ := known.combine left right (some span)
    rw [combined, otherCombined, pure_bind, pure_bind]
    have fewer := (last.ahead.trans_lt took.ahead).trans_eq seen.ahead
    exact inductionHypothesis _ ⟨last.near, fewer.le.trans ended.ahead, span, hasSpan, ends⟩
      (by omega) (by omega)

theorem paired_branches {branch : EStateM ParseError First Expr}
    {otherBranch : EStateM ParseError Second Expr}
    (together : Together relation room branch otherBranch) {condition : Expr} {token : Token}
    (ended : Ended relation room tokens condition first second)
    (shown : one.peek first = .ok token first) (otherShown : other.peek second = .ok token second)
    (question : token.type = .question) :
    Paired (Ended relation room tokens) relation.apart (one.branches branch condition first)
      (other.branches otherBranch condition second) := by
  refine (simulation.take ended.near shown otherShown (by rw [question]; decide)).bind
    fun _ first second took => ?_
  refine (together first second took.near).bind fun whenTrue first second trueEnded => ?_
  refine (simulation.paired_expect trueEnded.near (by decide)).bind fun _ first second colon => ?_
  refine (together first second colon.near).bind fun whenFalse first second falseEnded => ?_
  obtain ⟨span, spanned, otherSpanned, ends⟩ := simulation.paired_span ended falseEnded
  rw [bind_of_ok spanned, bind_of_ok otherSpanned]
  refine .ok _ first second ⟨falseEnded.near, ?_, span, rfl, ends⟩
  exact ((falseEnded.ahead.trans colon.ahead.le).trans (trueEnded.ahead.trans took.ahead.le)).trans
    ended.ahead

theorem together_tooDeep (grade : FirstGrade) (otherGrade : SecondGrade) :
    Together relation room (one.tooDeep grade) (other.tooDeep otherGrade) := by
  intro first second near
  refine (simulation.peek near).bind fun token first second seen => ?_
  exact simulation.paired_fault seen.near _

variable [DecidableEq FirstGrade] [DecidableEq SecondGrade]

theorem paired_suffix {branch : EStateM ParseError First Expr}
    {otherBranch : EStateM ParseError Second Expr}
    (together : Together relation room branch otherBranch) {grade : FirstGrade}
    {otherGrade : SecondGrade} (same : grades grade otherGrade) {expr : Expr}
    (ended : Ended relation room tokens expr first second) :
    Paired (Ended relation room tokens) relation.apart (one.suffix branch grade expr first)
      (other.suffix otherBranch otherGrade expr second) := by
  unfold suffix
  by_cases loose : grade = one.loosest
  · rw [if_pos loose, if_pos ((simulation.loosest_iff same).1 loose)]
    refine (simulation.peek ended.near).bind fun token first second seen => ?_
    by_cases question : token.type = .question
    · rw [if_pos question, if_pos question]
      exact simulation.paired_branches together (ended.ofSeen seen) seen.again seen.otherAgain
        question
    · rw [if_neg question, if_neg question]
      exact .ok expr first second (ended.ofSeen seen)
  · rw [if_neg loose, if_neg fun otherLoose => loose ((simulation.loosest_iff same).2 otherLoose)]
    exact .ok expr first second ended

section

variable {beyond : FirstGrade → EStateM ParseError First Expr}
  {otherBeyond : SecondGrade → EStateM ParseError Second Expr} {extra : Nat}
  (bottom : ∀ grade otherGrade, grades grade otherGrade →
    Together relation 0 (one.expression beyond extra grade) (otherBeyond otherGrade))

include bottom

/-- Two parsers that have room for as many levels read the same expressions, if they come to the
same where there is no room; the first one may be called more often in a row. -/
theorem together_expression (room : Nat) (grade : FirstGrade) (otherGrade : SecondGrade)
    (same : grades grade otherGrade) :
    Together relation room (one.expression beyond (extra + room) grade)
      (other.expression otherBeyond room otherGrade) := by
  induction room generalizing grade otherGrade with
  | zero => exact bottom grade otherGrade same
  | succ room inductionHypothesis =>
    refine simulation.deeper fun first second near => ?_
    refine (simulation.together_operand (inductionHypothesis _ _ simulation.loosest) first second
      near).bind fun operand first second ended => ?_
    have unread := simulation.unread ended.near
    have operators := simulation.paired_operators inductionHypothesis same (one.unread first + 1)
      (other.unread second + 1) ended (Nat.lt_succ_of_le unread.1) (Nat.lt_succ_of_le unread.2)
    refine operators.bind fun expr first second ended => ?_
    exact simulation.paired_suffix (inductionHypothesis _ _ simulation.branch) same ended

/-- Two parsers read the same as a whole, the first one in at least as many calls. -/
theorem paired_whole (near : relation.near room first second) :
    Paired (fun _ => relation.near room) relation.apart
      (one.whole beyond (extra + room) first) (other.whole otherBeyond room second) := by
  refine (simulation.together_expression bottom room _ _ simulation.loosest first second near).bind
    fun expr first second ended => ?_
  refine (simulation.peek ended.near).bind fun token first second seen => ?_
  by_cases isEnd : token.type = .endOfInput
  · rw [if_pos isEnd, if_pos isEnd]
    exact .ok expr first second seen.near
  · rw [if_neg isEnd, if_neg isEnd, bind_of_ok seen.again, bind_of_ok seen.otherAgain]
    exact simulation.paired_fault seen.near _

end

/-- Two parsers that count the same levels, and for which one more is a fault, read the same as a
whole. -/
theorem paired_whole_tooDeep (near : relation.near room first second) :
    Paired (fun _ => relation.near room) relation.apart (one.whole one.tooDeep room first)
      (other.whole other.tooDeep room second) := by
  have bottom (grade : FirstGrade) (otherGrade : SecondGrade) (_ : grades grade otherGrade) :
      Together relation 0 (one.expression one.tooDeep 0 grade) (other.tooDeep otherGrade) :=
    simulation.together_tooDeep grade otherGrade
  have paired := simulation.paired_whole bottom near
  rwa [Nat.zero_add] at paired

end Simulation

/-- Operations of the levels are the same on whatever states. -/
theorem sameOperation_level {First Second : Type} (level : Level) (type : TokenType) :
    (level.operation type : Option (Operation First Level)) = none ∧
        (level.operation type : Option (Operation Second Level)) = none ∨
      type ≠ .endOfInput ∧
        ∃ (operation : Operation First Level) (otherOperation : Operation Second Level),
          level.operation type = some operation ∧ level.operation type = some otherOperation ∧
            SameOperation Eq operation otherOperation := by
  cases type with
  | operator op =>
    by_cases admitted : level.admits op.tier = true
    · refine .inr ⟨TokenType.noConfusion, _, _, Level.operation_of_admits admitted,
        Level.operation_of_admits admitted, ⟨_, _, rfl, rfl, rfl⟩, fun left right span => ?_⟩
      exact ⟨_, rfl, rfl, rfl⟩
    · exact .inl ⟨if_neg admitted, if_neg admitted⟩
  | _ => exact .inl ⟨rfl, rfl⟩

end Parser

end IntExpr
