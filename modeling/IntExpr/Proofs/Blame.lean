/-
This file proves that a report on a failed evaluation points at the right token. Evaluation fails
at the first of its events that fails, from left to right and with branches left out that are not
selected. In a tree that was read from a text each event has a token of its own: a look-up has
that of its name, and an operation has the one right behind its sign, which is where its right
operand starts however many parentheses are around it. No two tokens of a text stand at the same
place, so the place in a report tells which one it is.
-/

import IntExpr.Proofs.Acceptance
import IntExpr.Proofs.Failures
import IntExpr.Proofs.Lookups
import IntExpr.Proofs.Tiling

namespace IntExpr

/-! ### The event that fails -/

/-- Some events, one after the other, lead to an outcome: all of them succeed, or the last one is
the first to fail and does so with the cause of the failure. -/
def LeadTo (bindings : Option Bindings) (events : List Event) :
    Except EvaluationError Int → Prop
  | .ok _ => ∀ event ∈ events, ∃ value, event.outcome bindings = .ok value
  | .error cause => ∃ earlier event, events = earlier ++ [event] ∧
      (∀ other ∈ earlier, ∃ value, other.outcome bindings = .ok value) ∧
      event.outcome bindings = .error cause

variable {bindings : Option Bindings}

theorem leadTo_singleton (event : Event) :
    LeadTo bindings [event] (event.outcome bindings) := by
  cases result : event.outcome bindings with
  | ok value =>
    intro other member
    rw [List.mem_singleton.1 member]
    exact ⟨value, result⟩
  | error cause => exact ⟨[], event, rfl, by simp, result⟩

/-- Events that succeed in front of others change nothing of what those lead to. -/
theorem LeadTo.prepend {first second : List Event} {outcome : Except EvaluationError Int}
    (succeed : ∀ event ∈ first, ∃ value, event.outcome bindings = .ok value)
    (leadTo : LeadTo bindings second outcome) : LeadTo bindings (first ++ second) outcome := by
  cases outcome with
  | ok value => exact List.forall_mem_append.2 ⟨succeed, leadTo⟩
  | error cause =>
    obtain ⟨earlier, event, rfl, others, failed⟩ := leadTo
    exact ⟨first ++ earlier, event, by rw [List.append_assoc],
      List.forall_mem_append.2 ⟨succeed, others⟩, failed⟩

namespace Expr

/-- The events of a tree lead to its meaning. -/
theorem leadTo_meaning (bindings : Option Bindings) (expr : Expr) :
    LeadTo bindings (expr.events bindings) (expr.meaning bindings) := by
  induction expr with
  | literal value span => exact fun _ member => absurd member List.not_mem_nil
  | identifier name span => exact leadTo_singleton (.lookup name (span.map Span.start))
  | foreign value => exact leadTo_singleton (.foreign value)
  | group inner span inductionHypothesis => exact inductionHypothesis
  | binary left op right span leftHypothesis rightHypothesis =>
    rw [events, meaning]
    cases leftValue : left.meaning bindings with
    | error cause =>
      rw [leftValue] at leftHypothesis
      rwa [List.append_nil]
    | ok first =>
      rw [leftValue] at leftHypothesis
      refine .prepend leftHypothesis ?_
      cases rightValue : right.meaning bindings with
      | error cause =>
        rw [rightValue] at rightHypothesis
        show LeadTo bindings (right.events bindings ++ []) (.error cause)
        rwa [List.append_nil]
      | ok second =>
        rw [rightValue] at rightHypothesis
        exact .prepend rightHypothesis (leadTo_singleton (.operation op first second right.place))
  | conditional condition whenTrue whenFalse span conditionHypothesis trueHypothesis
      falseHypothesis =>
    rw [events, meaning]
    cases conditionValue : condition.meaning bindings with
    | error cause =>
      rw [conditionValue] at conditionHypothesis
      rwa [List.append_nil]
    | ok choice =>
      rw [conditionValue] at conditionHypothesis
      refine .prepend conditionHypothesis ?_
      by_cases isTrue : choice ≠ 0
      · simp only [if_pos isTrue]
        exact trueHypothesis
      · simp only [if_neg isTrue]
        exact falseHypothesis

/-! ### The token of an event -/

theorem mem_events_binary {left right : Expr} {op : Operator} {span : Option Span} {event : Event}
    (member : event ∈ (binary left op right span).events bindings) :
    event ∈ left.events bindings ∨ event ∈ right.events bindings ∨
      ∃ first second, event = .operation op first second right.place := by
  rw [events, List.mem_append] at member
  refine member.imp_right fun member => ?_
  cases leftValue : left.meaning bindings with
  | error cause =>
    rw [leftValue] at member
    cases member
  | ok first =>
    rw [leftValue] at member
    refine (List.mem_append.1 member).imp_right fun member => ?_
    cases rightValue : right.meaning bindings with
    | error cause =>
      rw [rightValue] at member
      cases member
    | ok second =>
      rw [rightValue] at member
      exact ⟨first, second, List.mem_singleton.1 member⟩

theorem mem_events_conditional {condition whenTrue whenFalse : Expr} {span : Option Span}
    {event : Event}
    (member : event ∈ (conditional condition whenTrue whenFalse span).events bindings) :
    event ∈ condition.events bindings ∨ event ∈ whenTrue.events bindings ∨
      event ∈ whenFalse.events bindings := by
  rw [events, List.mem_append] at member
  refine member.imp_right fun member => ?_
  cases conditionValue : condition.meaning bindings with
  | error cause =>
    rw [conditionValue] at member
    cases member
  | ok choice =>
    rw [conditionValue] at member
    by_cases isTrue : choice ≠ 0
    · simp only [if_pos isTrue] at member
      exact .inl member
    · simp only [if_neg isTrue] at member
      exact .inr member

end Expr

namespace Event

/-- The token that an event is at, with the tokens in front of it: the name that is looked up, or
the token right behind the sign of the operation. -/
inductive IsAt (before : List Token) (token : Token) : Event → Prop
  | lookup (type : token.type = .identifier) :
    IsAt before token (lookup token.lexeme (some token.location))
  | operation (op : Operator) (sign : Token) (first second : Int)
      (last : before.getLast? = some sign) (type : sign.type = .operator op) :
    IsAt before token (operation op first second (some token.location))

/-- An event is at one of some tokens. -/
def IsIn (tokens : List Token) (event : Event) : Prop :=
  ∃ before token behind, tokens = before ++ token :: behind ∧ event.IsAt before token

/-- More tokens in front and behind make no difference. -/
theorem IsIn.widen {tokens : List Token} {event : Event} (isIn : event.IsIn tokens)
    (front back : List Token) : event.IsIn (front ++ (tokens ++ back)) := by
  obtain ⟨before, token, behind, rfl, isAt⟩ := isIn
  refine ⟨front ++ before, token, behind ++ back, by simp, ?_⟩
  cases isAt with
  | lookup type => exact .lookup type
  | operation op sign first second last type =>
    exact .operation op sign first second (by rw [List.getLast?_append, last]; rfl) type

end Event

namespace ReadAs

variable {level : Level} {tokens : List Token} {expr : Expr}

/-- What is read reaches from its first token to its last. -/
theorem span_eq (reading : ReadAs level tokens expr) :
    ∃ first last, tokens.head? = some first ∧ tokens.getLast? = some last ∧
      expr.span = some ⟨first.location, last.location⟩ := by
  induction reading with
  | integer token _ | identifier token _ => exact ⟨token, token, rfl, rfl, rfl⟩
  | group opening closing _ _ _ _ _ _ => exact ⟨opening, closing, rfl, List.getLast?_concat, rfl⟩
  | operand _ _ _ _ inductionHypothesis => exact inductionHypothesis
  | unconditional _ _ _ inductionHypothesis => exact inductionHypothesis
  | operation _ _ _ _ _ _ _ _ _ leftHypothesis rightHypothesis =>
    obtain ⟨first, _, isFirst, _, left⟩ := leftHypothesis
    obtain ⟨_, last, _, isLast, right⟩ := rightHypothesis
    exact ⟨first, last, by simp [isFirst], by simp [List.getLast?_cons, isLast],
      by rw [Expr.span, left, right]; rfl⟩
  | conditional _ _ _ _ _ _ _ _ _ _ _ _ _ conditionHypothesis _ falseHypothesis =>
    obtain ⟨first, _, isFirst, _, condition⟩ := conditionHypothesis
    obtain ⟨_, last, _, isLast, whenFalse⟩ := falseHypothesis
    exact ⟨first, last, by simp [isFirst], by simp [List.getLast?_cons, isLast],
      by rw [Expr.span, condition, whenFalse]; rfl⟩

theorem exists_first (reading : ReadAs level tokens expr) :
    ∃ first others, tokens = first :: others ∧ expr.place = some first.location := by
  obtain ⟨first, last, isFirst, _, span⟩ := reading.span_eq
  obtain ⟨others, split⟩ := List.head?_eq_some_iff.1 isFirst
  exact ⟨first, others, split, by rw [Expr.place, span]; rfl⟩

/-- Every event of a tree that is read from some tokens is at one of them. -/
theorem isIn_of_mem_events (reading : ReadAs level tokens expr) :
    ∀ event ∈ expr.events bindings, event.IsIn tokens := by
  induction reading with
  | integer token _ => exact fun _ member => absurd member List.not_mem_nil
  | identifier token type =>
    intro event member
    rw [List.mem_singleton.1 member]
    exact ⟨[], token, [], rfl, .lookup type⟩
  | group opening closing _ _ _ _ _ inductionHypothesis =>
    exact fun event member => (inductionHypothesis event member).widen [opening] [closing]
  | operand _ _ _ _ inductionHypothesis => exact inductionHypothesis
  | unconditional _ _ _ inductionHypothesis => exact inductionHypothesis
  | operation op sign leftTokens rightTokens _ right _ signType rightReading leftHypothesis
      rightHypothesis =>
    intro event member
    rcases Expr.mem_events_binary member with inLeft | inRight | ⟨first, second, rfl⟩
    · exact (leftHypothesis event inLeft).widen [] (sign :: rightTokens)
    · have isIn := (rightHypothesis event inRight).widen (leftTokens ++ [sign]) []
      rwa [List.append_nil, List.append_assoc] at isIn
    · obtain ⟨token, others, rfl, starts⟩ := rightReading.exists_first
      refine ⟨leftTokens ++ [sign], token, others, by simp, ?_⟩
      rw [starts]
      exact .operation op sign first second (by simp) signType
  | conditional question colon conditionTokens trueTokens falseTokens _ _ _ _ _ _ _ _
      conditionHypothesis trueHypothesis falseHypothesis =>
    intro event member
    rcases Expr.mem_events_conditional member with inCondition | inTrue | inFalse
    · exact (conditionHypothesis event inCondition).widen []
        (question :: (trueTokens ++ colon :: falseTokens))
    · have isIn := (trueHypothesis event inTrue).widen (conditionTokens ++ [question])
        (colon :: falseTokens)
      rwa [List.append_assoc] at isIn
    · have isIn := (falseHypothesis event inFalse).widen
        (conditionTokens ++ question :: (trueTokens ++ [colon])) []
      simpa using isIn

end ReadAs

/-! ### Places of tokens -/

/-- In a tiling each token stands behind those in front of it, and none behind the text. -/
theorem Tiling.offsets_increase {filename : String} {before text rest : List Char}
    {tokens : List Token} (tiling : Tiling filename before text tokens rest) :
    tokens.Pairwise (fun first second => first.location.offset < second.location.offset) ∧
      ∀ token ∈ tokens, before.length ≤ token.location.offset ∧
        token.location.offset < before.length + text.length := by
  induction tiling with
  | stop => simp
  | token before gap following rest token tokens _ lexeme place _ inductionHypothesis =>
    obtain ⟨increase, bounds⟩ := inductionHypothesis
    have long := List.length_pos_iff.2 lexeme.ne_nil
    have offset : token.location.offset = before.length + gap.length := by
      rw [place, ← List.length_append]
      rfl
    simp only [List.length_append] at bounds ⊢
    refine ⟨List.pairwise_cons.2 ⟨fun other member => ?_, increase⟩,
      List.forall_mem_cons.2 ⟨by omega, fun other member => ?_⟩⟩
    · have bound := bounds other member
      omega
    · have bound := bounds other member
      omega

/-- The tokens of a text stand at different places, and each at one in the text. -/
theorem places_of_tape {filename source : String} {tokens : List Token} {last : Token}
    (tape : textTape filename source = ⟨tokens, .ok last⟩) :
    (tokens ++ [last]).Pairwise (fun first second => first.location ≠ second.location) ∧
      ∀ token ∈ tokens, token.location ≠ .unknown := by
  obtain ⟨reached, rest, place, tiling, _, stops⟩ := (textTape_eq_iff ..).1 tape
  obtain ⟨increase, bounds⟩ := tiling.offsets_increase
  cases stops
  rw [List.append_nil] at place
  subst place
  constructor
  · refine List.pairwise_append.2 ⟨increase.imp fun less same => ?_, List.pairwise_singleton _ _,
      fun token member final isLast same => ?_⟩
    · rw [same] at less
      exact Nat.lt_irrefl _ less
    · rw [List.mem_singleton.1 isLast] at same
      have bound := (bounds token member).2
      rw [same] at bound
      simp [Location.behind] at bound
  · intro token member same
    obtain ⟨front, _, _, location⟩ := tiling.place_of_mem token member
    rw [location] at same
    have line := congrArg Location.line same
    simp [Location.behind, Location.unknown] at line

/-! ### Reports -/

/-- What a fault of evaluation is blamed on: a name that has no value, or an operation by the
sign right in front of the token. -/
def Fault.Blames (bindings : Option Bindings) (before : List Token) (token : Token)
    (cause : EvaluationError) : Fault → Prop
  | unboundIdentifier => ∃ failure, cause = .unbound failure ∧ token.type = .identifier ∧
      token.value = .name failure.name ∧ valueIn? bindings failure.name = none
  | divisionByZero => ∃ sign, before.getLast? = some sign ∧ sign.type = .operator .divide
  | negativeShift => ∃ sign, before.getLast? = some sign ∧
      (sign.type = .operator .shiftLeft ∨ sign.type = .operator .shiftRight)
  | shiftTooLarge => ∃ sign, before.getLast? = some sign ∧ sign.type = .operator .shiftLeft
  | _ => False

/-- The report on an event that fails has the place of its token and blames what is there. -/
theorem Event.IsAt.report_eq {before : List Token} {token : Token} {event : Event}
    (isAt : event.IsAt before token) {cause : EvaluationError}
    (failed : event.outcome bindings = .error cause) {fault : Fault} {diagnostic : Diagnostic}
    (diagnosed : cause.report = .diagnosed fault diagnostic) :
    diagnostic.location = some token.location ∧ diagnostic.code = some fault.code ∧
      fault.Blames bindings before token cause := by
  cases isAt with
  | lookup type =>
    obtain ⟨unlisted, similar, rfl⟩ := Expr.unbound_of_valueOf failed
    cases diagnosed
    exact ⟨rfl, rfl, _, rfl, type, by rw [Token.value, type], by rw [valueIn?, unlisted]; rfl⟩
  | operation op sign first second last type =>
    obtain ⟨refusal, rfl, refuses⟩ := Expr.refusal_of_operate failed
    rcases refusal_cases refuses with ⟨rfl, _, rfl⟩ | ⟨shift, _, rfl⟩ | ⟨rfl, _, _, rfl⟩
    · cases diagnosed
      exact ⟨rfl, rfl, sign, last, type⟩
    · rw [EvaluationError.report, Diagnostic.negativeShift] at diagnosed
      cases written : Decimal.write second with
      | error cause => rw [written] at diagnosed; cases diagnosed
      | ok text =>
        rw [written] at diagnosed
        cases diagnosed
        refine ⟨rfl, rfl, sign, last, ?_⟩
        rcases shift with rfl | rfl
        · exact .inl type
        · exact .inr type
    · rw [EvaluationError.report, Diagnostic.shiftTooLarge] at diagnosed
      cases written : Decimal.write second with
      | error cause => rw [written] at diagnosed; cases diagnosed
      | ok text =>
        rw [written] at diagnosed
        cases diagnosed
        exact ⟨rfl, rfl, sign, last, type⟩

/-- If a text is parsed and its tree fails with a diagnosed error, then this points at one token
of the text and at no other: at a name that has no value, or right behind the sign of the
operation that was refused. That token belongs to the first event that fails, in the order in
which evaluation carries them out, which is from left to right without the branches that are not
selected. -/
theorem evaluation_error_points_at_token (filename source : String) (bindings : Option Bindings)
    (expr : Expr) (cause : EvaluationError) (fault : Fault) (diagnostic : Diagnostic)
    (parsed : parseText filename source = .ok expr)
    (failed : expr.evaluate bindings = .error cause)
    (diagnosed : cause.report = .diagnosed fault diagnostic) :
    ∃ before token behind, tokenize filename source = .ok (before ++ token :: behind) ∧
      diagnostic.location = some token.location ∧ token.location ≠ .unknown ∧
      (∀ other ∈ before ++ behind, other.location ≠ token.location) ∧
      diagnostic.code = some fault.code ∧ fault.Blames bindings before token cause ∧
      ∃ earlier event, expr.record bindings = earlier ++ [event] ∧
        expr.events bindings = earlier ++ [event] ∧
        (∀ other ∈ earlier, ∃ value, other.outcome bindings = .ok value) ∧
        event.outcome bindings = .error cause ∧ event.IsAt before token := by
  obtain ⟨tokens, last, tape, reading, _⟩ := (parseText_eq_ok_iff ..).1 parsed
  have leadTo := expr.leadTo_meaning bindings
  rw [← (Expr.evaluate_and_follow _).1, failed] at leadTo
  obtain ⟨earlier, event, events, succeed, fails⟩ := leadTo
  obtain ⟨before, token, behind, rfl, isAt⟩ :=
    reading.isIn_of_mem_events event (by rw [events]; simp)
  obtain ⟨location, code, blames⟩ := isAt.report_eq fails diagnosed
  obtain ⟨apart, known⟩ := places_of_tape tape
  refine ⟨before, token, behind ++ [last], (tokenize_eq_ok_iff ..).2 ⟨_, _, tape, by simp⟩,
    location, known token (by simp), ?_, code, blames, earlier, event,
    by rw [Expr.record_eq_events, events], events, succeed, fails, isAt⟩
  rw [List.append_assoc, List.cons_append, List.pairwise_append, List.pairwise_cons] at apart
  intro other member
  rcases List.mem_append.1 member with inFront | behindIt
  · exact apart.2.2 other inFront token List.mem_cons_self
  · exact (apart.2.1.1 other behindIt).symm

/-- In `8/(0)+q` the division fails before `q` is looked up, and the report points at the
parenthesis right behind its sign. -/
theorem division_error_points_behind_sign :
    ∃ expr before token behind, parseText "" "8/(0)+q" = .ok expr ∧
      expr.evaluate none = .error (.refused .zeroDivisor (some ⟨"", 1, 3, 2⟩)) ∧
      tokenize "" "8/(0)+q" = .ok (before ++ token :: behind) ∧
      token.location = ⟨"", 1, 3, 2⟩ ∧
      ∃ sign, before.getLast? = some sign ∧ sign.type = .operator .divide := by
  let column (number : Nat) : Location := ⟨"", 1, number, number - 1⟩
  let division : Expr := .binary (.literal 8 (some (.single (column 1)))) .divide
    (.group (.literal 0 (some (.single (column 4)))) (some ⟨column 3, column 5⟩))
    (some ⟨column 1, column 5⟩)
  let sum : Expr := .binary division .plus (.identifier "q" (some (.single (column 7))))
    (some ⟨column 1, column 7⟩)
  have found : (parseText "" "8/(0)+q").toOption = some sum := by decide +kernel
  have failed : sum.evaluate none = .error (.refused .zeroDivisor (some ⟨"", 1, 3, 2⟩)) := by
    rw [(Expr.evaluate_and_follow _).1]
    rfl
  cases parsed : parseText "" "8/(0)+q" with
  | error cause =>
    rw [parsed] at found
    cases found
  | ok expr =>
    rw [parsed] at found
    cases found
    obtain ⟨before, token, behind, tokenized, location, _, _, _, blames, _⟩ :=
      evaluation_error_points_at_token "" _ none sum _ _ _ parsed failed rfl
    exact ⟨sum, before, token, behind, rfl, failed, tokenized, (Option.some.inj location).symm,
      blames⟩

end IntExpr
