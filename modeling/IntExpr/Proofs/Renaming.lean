/-
This file proves that the name of a text goes into the places that are named in it and into nothing
else. A text with another name has the same tokens at the same places of the other text; its tree,
its value and the faults in it are the same, the places in them aside; and what is reported of a
failure names the other text and says the same.
-/

import IntExpr.Proofs.Classification

namespace IntExpr

/-! ### Places under another name -/

/-- The same place in a text of another name. -/
def Location.under (location : Location) (filename : String) : Location :=
  { location with filename }

def Span.under (span : Span) (filename : String) : Span :=
  ⟨span.start.under filename, span.stop.under filename⟩

def Token.under (token : Token) (filename : String) : Token :=
  { token with location := token.location.under filename }

/-- The same tree as it would be read from a text of another name. -/
def Expr.under (filename : String) : Expr → Expr
  | literal value span => literal value (span.map (·.under filename))
  | identifier name span => identifier name (span.map (·.under filename))
  | group inner span => group (inner.under filename) (span.map (·.under filename))
  | binary left op right span =>
    binary (left.under filename) op (right.under filename) (span.map (·.under filename))
  | conditional condition whenTrue whenFalse span =>
    conditional (condition.under filename) (whenTrue.under filename) (whenFalse.under filename)
      (span.map (·.under filename))
  | foreign value => foreign value

def ScanError.under (filename : String) : ScanError → ScanError
  | invalidCharacter character location => invalidCharacter character (location.under filename)
  | numeralTooLong digits => numeralTooLong digits

def GrammarError.under (filename : String) (cause : GrammarError) : GrammarError :=
  cause.refound (cause.found.under filename)

def ParseError.under (filename : String) : ParseError → ParseError
  | scan cause => scan (cause.under filename)
  | grammar cause => grammar (cause.under filename)

def EvaluationError.under (filename : String) : EvaluationError → EvaluationError
  | refused refusal place => refused refusal (place.map (·.under filename))
  | unbound failure => unbound { failure with place := failure.place.map (·.under filename) }
  | notAnExpression value => notAnExpression value

def Failure.under (filename : String) : Failure → Failure
  | parse cause => parse (cause.under filename)
  | evaluation cause => evaluation (cause.under filename)
  | exhausted => exhausted

/-- The same report of a text of another name. -/
def Diagnostic.under (filename : String) (diagnostic : Diagnostic) : Diagnostic :=
  { diagnostic with location := diagnostic.location.map (·.under filename) }

def Report.under (filename : String) : Report → Report
  | diagnosed fault diagnostic => diagnosed fault (diagnostic.under filename)
  | report => report

/-! ### Tokens -/

section

variable (filename : String)

theorem sameWords_under (tokens : List Token) :
    SameWords (tokens.map (·.under filename)) tokens := by
  rw [SameWords, List.map_map]
  rfl

/-- What is read next, or the fault in its place, under another name. -/
def itemUnder : Except ScanError Token → Except ScanError Token
  | .ok token => .ok (token.under filename)
  | .error cause => .error (cause.under filename)

/-- A tape under another name. -/
def Tape.under (tape : Tape) : Tape :=
  ⟨tape.tokens.map (·.under filename), itemUnder filename tape.ending⟩

@[simp] theorem Tape.under_push (token : Token) (tape : Tape) :
    (Tape.push token tape).under filename =
      Tape.push (token.under filename) (tape.under filename) := by
  by_cases isEnd : token.type = .endOfInput
  · rw [push_of_end tape isEnd, push_of_end _ (show (token.under filename).type = _ from isEnd)]
    rfl
  · rw [push_of_more tape isEnd, push_of_more _ (show (token.under filename).type ≠ _ from isEnd)]
    rfl

@[simp] theorem Tape.under_prepend (taken : List Token) (tape : Tape) :
    (tape.prepend taken).under filename =
      (tape.under filename).prepend (taken.map (·.under filename)) := by
  rw [prepend, under, List.map_append]
  rfl

@[simp] theorem Tape.next_under (tape : Tape) :
    (tape.under filename).next = itemUnder filename tape.next := by
  obtain ⟨tokens, ending⟩ := tape
  cases tokens <;> rfl

theorem Tape.Closed.under {tape : Tape} (closed : tape.Closed) :
    (tape.under filename).Closed := by
  intro last ending
  cases found : tape.ending with
  | error cause =>
    rw [Tape.under, found] at ending
    cases ending
  | ok token =>
    rw [Tape.under, found] at ending
    cases ending
    exact closed token found

namespace Cursor

variable (other : String)

theorem scanToken_under (cursor : Cursor) :
    cursor.scanToken other =
      (itemUnder other (cursor.scanToken filename).1, (cursor.scanToken filename).2) := by
  unfold scanToken
  cases cursor.rest with
  | nil => rfl
  | cons character rest =>
    dsimp only
    cases leadingLexeme (character :: rest) with
    | none => rfl
    | some found =>
      dsimp only
      split <;> rfl

theorem scan_under (cursor : Cursor) :
    cursor.scan other =
      (itemUnder other (cursor.scan filename).1, (cursor.scan filename).2) :=
  cursor.pastGap.scanToken_under filename other

theorem tape_under (cursor : Cursor) :
    cursor.tape other = (cursor.tape filename).under other := by
  induction cursor using tape.induct filename with
  | case1 cursor cause behind scanned =>
    have renamed := cursor.scan_under filename other
    rw [scanned] at renamed
    rw [tape_of_scan_error scanned, tape_of_scan_error renamed]
    rfl
  | case2 cursor token behind scanned isEnd =>
    have renamed := cursor.scan_under filename other
    rw [scanned] at renamed
    rw [tape_of_scan_ok scanned, tape_of_scan_ok renamed, Tape.push_of_end _ isEnd,
      Tape.push_of_end _ (show (token.under other).type = _ from isEnd)]
    rfl
  | case3 cursor token behind scanned more inductionHypothesis =>
    have renamed := cursor.scan_under filename other
    rw [scanned] at renamed
    rw [tape_of_scan_ok scanned, tape_of_scan_ok renamed, inductionHypothesis, Tape.under_push]

end Cursor

/-- A text of another name has the same tokens at the same places. -/
theorem textTape_under (other source : String) :
    textTape other source = (textTape filename source).under other :=
  Cursor.tape_under filename other _

end

/-! ### Trees -/

namespace Expr

variable (filename : String)

@[simp] theorem span_under (expr : Expr) :
    (expr.under filename).span = expr.span.map (·.under filename) := by
  cases expr <;> rfl

@[simp] theorem place_under (expr : Expr) :
    (expr.under filename).place = expr.place.map (·.under filename) := by
  rw [place, place, span_under, Option.map_map, Option.map_map]
  rfl

/-- Under another name a tree differs in spans only. -/
theorem alike_under (expr : Expr) : (expr.under filename).Alike expr := by
  rw [Alike]
  induction expr <;> simp_all [under, withoutSpans]

theorem cover_under (first last : Expr) :
    Span.cover (first.under filename).span (last.under filename).span =
      (Span.cover first.span last.span).map (·.under filename) := by
  rw [span_under, span_under]
  cases first.span <;> cases last.span <;> rfl

end Expr

theorem ReadAs.under (filename : String) {level : Level} {tokens : List Token} {expr : Expr}
    (reading : ReadAs level tokens expr) :
    ReadAs level (tokens.map (·.under filename)) (expr.under filename) := by
  induction reading with
  | integer token type => exact .integer (token.under filename) type
  | identifier token type => exact .identifier (token.under filename) type
  | group opening closing tokens inner openingType _ closingType inductionHypothesis =>
    rw [List.map_append]
    exact .group (opening.under filename) (closing.under filename) _ _ openingType
      inductionHypothesis closingType
  | operand tier _ _ _ inductionHypothesis => exact .operand tier _ _ inductionHypothesis
  | unconditional _ _ _ inductionHypothesis => exact .unconditional _ _ inductionHypothesis
  | operation op sign _ _ left right _ signType _ leftHypothesis rightHypothesis =>
    rw [List.map_append, List.map_cons, Expr.under, ← Expr.cover_under]
    exact .operation op (sign.under filename) _ _ _ _ leftHypothesis signType rightHypothesis
  | conditional question colon _ _ _ condition whenTrue whenFalse _ questionType _ colonType _
      conditionHypothesis trueHypothesis falseHypothesis =>
    rw [List.map_append, List.map_cons, List.map_append, List.map_cons, Expr.under,
      ← Expr.cover_under]
    exact .conditional (question.under filename) (colon.under filename) _ _ _ _ _ _
      conditionHypothesis questionType trueHypothesis colonType falseHypothesis

/-! ### What the parser makes of a tape -/

/-- A token that is read from a tape which ends in a fault stands in the same place among tokens of
the same words. -/
theorem exists_next_of_sameWords {tokens others taken : List Token} {cause : ScanError}
    {after : Tape} {token : Token} (same : SameWords tokens others)
    (split : (⟨others, .error cause⟩ : Tape) = after.prepend taken)
    (next : after.next = .ok token) :
    ∃ front found, ∃ rest : Tape, (⟨tokens, .error cause⟩ : Tape) = rest.prepend front ∧
      rest.next = .ok found ∧ SameWords front taken ∧ found.type = token.type := by
  obtain ⟨more, ending⟩ := after
  injection split with sameTokens sameEnding
  subst sameTokens sameEnding
  cases more with
  | nil => cases next
  | cons first more =>
    cases next
    obtain ⟨front, back, rfl, sameFront, sameBack⟩ := same.exists_append
    obtain ⟨found, behind, rfl, sameWord, _⟩ := sameBack.exists_cons
    exact ⟨front, found, ⟨found :: behind, .error cause⟩, rfl, rfl, sameFront,
      Token.type_eq_of_word sameWord⟩

/-- Behind tokens of the same words the parser asks for what comes next, too. -/
theorem Asks.ofWords {tokens others : List Token} (asks : Asks tokens)
    (same : SameWords others tokens) : Asks others := by
  intro cause
  have asked := asks cause
  have closed : (⟨others, .error cause⟩ : Tape).Closed := fun _ ending => by cases ending
  have outcome := outcome_whole closed
  rw [Tape.parsed]
  generalize TapeParse.whole ⟨others, .error cause⟩ = result at outcome
  cases outcome with
  | done taken expr after split accepted =>
    -- The tree would have been complete on the other tape as well.
    obtain ⟨reading, shallow, last, next, isEnd⟩ := accepted
    obtain ⟨front, found, rest, otherSplit, otherNext, sameFront, sameType⟩ :=
      exists_next_of_sameWords same.symm split next
    obtain ⟨tree, otherReading, alike⟩ := reading.ofWords sameFront
    rw [otherSplit, Tape.parsed, Accepted.whole_eq
      ⟨otherReading, by rwa [alike.nesting_eq], found, otherNext, sameType.trans isEnd⟩] at asked
    cases asked
  | fault before fault after split next rejected =>
    obtain ⟨front, found, rest, otherSplit, otherNext, sameFront, sameType⟩ :=
      exists_next_of_sameWords same.symm split next
    rw [otherSplit, Tape.parsed, (rejected.ofWords sameFront sameType).whole_eq
      (by rw [otherNext, GrammarError.found_refound])] at asked
    cases asked
  | unscanned found ending =>
    cases ending
    rfl

section

variable (filename : String)

/-- The outcome of parsing under another name. -/
def parsedUnder (outcome : Except ParseError Expr) : Except ParseError Expr :=
  (outcome.map (·.under filename)).mapError (·.under filename)

/-- The parser makes the same of a tape under another name. -/
theorem Tape.parsed_under {tape : Tape} (closed : tape.Closed) :
    (tape.under filename).parsed = parsedUnder filename tape.parsed := by
  have outcome := outcome_whole closed
  have otherClosed := closed.under filename
  generalize ran : TapeParse.whole tape = result at outcome
  cases outcome with
  | done tokens expr after split accepted =>
    obtain ⟨reading, shallow, last, next, isEnd⟩ := accepted
    have otherNext : (after.under filename).next = .ok (last.under filename) := by
      rw [next_under, next]
      rfl
    have otherShallow : (expr.under filename).nesting ≤ nestingLimit := by
      rwa [(expr.alike_under filename).nesting_eq]
    rw [split, under_prepend, parsed, Accepted.whole_eq
      ⟨reading.under filename, otherShallow, _, otherNext, isEnd⟩, ← split, parsed, ran]
    rfl
  | fault before cause after split next rejected =>
    have otherNext : (after.under filename).next = .ok (cause.found.under filename) := by
      rw [next_under, next]
      rfl
    have otherRejected : Rejected (before.map (·.under filename)) (cause.under filename) :=
      rejected.ofWords (sameWords_under filename before) rfl
    rw [split, under_prepend, parsed, otherRejected.whole_eq
      (by rw [otherNext, GrammarError.under, GrammarError.found_refound]), ← split, parsed, ran]
    rfl
  | unscanned cause ending =>
    have outcome : tape.parsed = .error (.scan cause) := by rw [parsed, ran]
    have asks := ((parsed_eq_scan_iff closed cause).1 outcome).2
    rw [outcome]
    refine (parsed_eq_scan_iff otherClosed _).2 ⟨?_, asks.ofWords (sameWords_under filename _)⟩
    rw [under, ending]
    rfl

/-- A text of another name is parsed as the same tree or fails in the same way. -/
theorem parseText_under (other source : String) :
    parseText other source = parsedUnder other (parseText filename source) := by
  rw [parseText_eq_parsed, parseText_eq_parsed, textTape_under filename other,
    Tape.parsed_under other (endsOnce_textTape filename source).2]

end

/-! ### Values and reports -/

section

variable (filename : String)

theorem operate_under (op : Operator) (left right : Int) (place : Option Location) :
    operate op left right (place.map (·.under filename)) =
      (operate op left right place).mapError (·.under filename) := by
  unfold operate
  cases op.apply left right <;> rfl

theorem valueOf_under (bindings : Option Bindings) (name : String) (place : Option Location) :
    valueOf bindings name (place.map (·.under filename)) =
      (valueOf bindings name place).mapError (·.under filename) := by
  cases bindings with
  | none => rfl
  | some bindings =>
    simp only [valueOf, Bindings.get]
    cases bindings.lookup name <;> rfl

/-- Under another name a tree has the same value or fails for the same cause. -/
theorem Expr.evaluate_under (bindings : Option Bindings) (expr : Expr) :
    (expr.under filename).evaluate bindings =
      (expr.evaluate bindings).mapError (·.under filename) := by
  induction expr with
  | literal value span => simp [under]
  | identifier name span =>
    rw [under, evaluate_identifier, evaluate_identifier, ← valueOf_under, Option.map_map,
      Option.map_map]
    rfl
  | group inner span inductionHypothesis => simp [under, inductionHypothesis]
  | binary left op right span leftHypothesis rightHypothesis =>
    simp [under, leftHypothesis, rightHypothesis, ← operate_under]
  | conditional condition whenTrue whenFalse span conditionHypothesis trueHypothesis
      falseHypothesis =>
    simp [under, conditionHypothesis, trueHypothesis, falseHypothesis]
  | foreign value => simp [under, EvaluationError.under]

/-- A text of another name comes to the same value or fails for the same cause. -/
theorem calculate_under (other source : String) (bindings : Option Bindings) :
    calculate other source bindings =
      (calculate filename source bindings).mapError (·.under other) := by
  rw [calculate, calculate, parseText_under filename other]
  cases parseText filename source with
  | error cause => rfl
  | ok expr =>
    show evaluateTree bindings (expr.under other) =
      (evaluateTree bindings expr).mapError (·.under other)
    rw [evaluateTree, evaluateTree, Expr.evaluate_under]
    cases expr.evaluate bindings <;> rfl

theorem ParseError.report_under (cause : ParseError) :
    (cause.under filename).report = cause.report.under filename := by
  cases cause with
  | scan cause => cases cause <;> rfl
  | grammar cause =>
    have diagnostic : (cause.under filename).diagnostic = cause.diagnostic.under filename := by
      cases cause with
      | unexpected expected found =>
        show Diagnostic.unexpected expected found.type _ =
          (Diagnostic.unexpected expected found.type _).under filename
        unfold Diagnostic.unexpected
        split <;> rfl
      | _ => rfl
    have fault : (cause.under filename).fault = cause.fault := GrammarError.fault_refound rfl
    show Report.diagnosed (cause.under filename).fault (cause.under filename).diagnostic = _
    rw [diagnostic, fault]
    rfl

/-- Where a known place is refused or without a value, the report names it under the other name. -/
theorem EvaluationError.report_under {bindings : Option Bindings} {known : Location → Prop}
    {expr : Expr} {cause : EvaluationError} (fails : expr.FailsWith bindings known cause) :
    (cause.under filename).report = cause.report.under filename := by
  cases fails with
  | unbound failure place _ located =>
    obtain ⟨name, _, similar⟩ := failure
    cases located
    rfl
  | refused refusal place _ _ _ _ _ _ =>
    cases refusal with
    | zeroDivisor => rfl
    | negativeShift count =>
      simp only [under, report, Diagnostic.negativeShift]
      cases Decimal.write count <;> rfl
    | shiftTooLarge count =>
      simp only [under, report, Diagnostic.shiftTooLarge]
      cases Decimal.write count <;> rfl

/-- What is reported of a text that fails names the other text and says the same. -/
theorem report_under_of_calculate {source : String} {bindings : Option Bindings} {failure : Failure}
    (failed : calculate filename source bindings = .error failure) (other : String) :
    (failure.under other).report = failure.report.under other := by
  obtain ⟨cause, rfl, _⟩ | ⟨_, cause, rfl, _, fails⟩ := failure_of_calculate failed
  · exact cause.report_under other
  · exact EvaluationError.report_under other fails

end

end IntExpr
