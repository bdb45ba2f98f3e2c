/-
This file classifies what a calculation can come to. It comes to an integer, to a failure of one
of nine codes at a place in the text, or to a refusal to convert a number that is too long; and
the last only if a numeral that is too long was come upon where a token starts, or if a shift was
refused whose count is too long to be written. It never fails inside: the tables that it is driven
by agree, and a tree that is parsed holds nothing but expressions that start in the text. On a
stack there is one outcome more: the text is parsed, and its evaluation goes too deep.
-/

import IntExpr.Proofs.Decision
import IntExpr.Proofs.Depth
import IntExpr.Proofs.Tables
import Mathlib.Data.Nat.Digits.Lemmas

namespace IntExpr

/-! ### Places in a text -/

/-- A place in a named text. -/
def StandsIn (filename source : String) (place : Location) : Prop :=
  ∃ before, before <+: source.toList ∧ place = .behind filename before

section

variable {filename source : String}

theorem StandsIn.ofSplit {before behind : List Char} (split : source.toList = before ++ behind) :
    StandsIn filename source (.behind filename before) :=
  ⟨before, ⟨behind, split.symm⟩, rfl⟩

theorem standsIn_of_mem_tokens {token : Token}
    (member : token ∈ (textTape filename source).tokens) :
    StandsIn filename source token.location := by
  obtain ⟨_, _, _, tiling, _, _⟩ :=
    (textTape_eq_iff filename source (textTape filename source).tokens _).1 rfl
  obtain ⟨front, back, split, place⟩ := tiling.place_of_mem token member
  rw [place]
  exact .ofSplit split

/-- The end of the input and a character that starts nothing are at places in the text. -/
theorem standsIn_of_ending {token : Token}
    (ending : (textTape filename source).ending = .ok token) :
    StandsIn filename source token.location := by
  obtain ⟨reached, rest, split, _, _, stops⟩ :=
    (textTape_eq_iff filename source _ (.ok token)).1 (by rw [← ending])
  cases stops
  exact .ofSplit split

theorem standsIn_of_invalidCharacter {character : Char} {place : Location}
    (ending : (textTape filename source).ending = .error (.invalidCharacter character place)) :
    StandsIn filename source place := by
  obtain ⟨reached, rest, split, _, _, stops⟩ := (textTape_eq_iff filename source _
    (.error (.invalidCharacter character place))).1 (by rw [← ending])
  cases stops
  exact .ofSplit split

/-- A token that the parser comes upon is at a place in the text. -/
theorem standsIn_of_next {before : List Token} {after : Tape} {token : Token}
    (split : textTape filename source = after.prepend before) (next : after.next = .ok token) :
    StandsIn filename source token.location := by
  obtain ⟨tokens, ending⟩ := after
  cases tokens with
  | nil =>
    refine standsIn_of_ending ?_
    rw [split]
    exact next
  | cons first tokens =>
    cases next
    refine standsIn_of_mem_tokens ?_
    rw [split]
    exact List.mem_append_right before List.mem_cons_self

/-- Every node of a tree that is parsed is an expression that starts in the text. -/
theorem placed_of_parseText {expr : Expr} (parsed : parseText filename source = .ok expr) :
    expr.Placed (StandsIn filename source) := by
  obtain ⟨tokens, last, tape, reading, _⟩ := (parseText_eq_ok_iff _ _ _).1 parsed
  refine reading.placed fun token member => standsIn_of_mem_tokens ?_
  rwa [tape]

/-- A calculation fails because the text is not parsed, or because its tree, all of which starts in
the text, has no value. -/
theorem failure_of_calculate {bindings : Option Bindings} {failure : Failure}
    (failed : calculate filename source bindings = .error failure) :
    (∃ cause, failure = .parse cause ∧ parseText filename source = .error cause) ∨
      ∃ expr cause, failure = .evaluation cause ∧ parseText filename source = .ok expr ∧
        expr.FailsWith bindings (StandsIn filename source) cause := by
  rw [calculate] at failed
  cases parsed : parseText filename source with
  | error cause =>
    rw [parsed] at failed
    cases failed
    exact .inl ⟨cause, rfl, rfl⟩
  | ok expr =>
    rw [parsed] at failed
    dsimp only at failed
    rw [evaluateTree] at failed
    cases evaluated : expr.evaluate bindings with
    | ok value =>
      rw [evaluated] at failed
      cases failed
    | error cause =>
      rw [evaluated] at failed
      cases failed
      exact .inr ⟨expr, cause, rfl, rfl,
        Expr.failsWith_of_evaluate (placed_of_parseText parsed) evaluated⟩

end

/-! ### Numbers that are too long -/

/-- A number has more digits than can be converted. -/
def TooLong (number : Int) : Prop :=
  digitLimit < (Nat.digits 10 number.natAbs).length

theorem lt_length_digits {number limit : Nat} (long : ¬ number < Nat.pow 10 limit) :
    limit < (Nat.digits 10 number).length :=
  (Nat.lt_digits_length_iff (by decide) number).2 (Nat.not_lt.1 long)

theorem tooLong_of_write {number : Int} {cause : DigitLimitError}
    (failed : Decimal.write number = .error cause) : cause = .writing ∧ TooLong number := by
  by_cases short : Decimal.Writable number
  · rw [Decimal.write, if_pos short] at failed
    cases failed
  · rw [Decimal.write, if_neg short] at failed
    cases failed
    exact ⟨rfl, lt_length_digits short⟩

/-- A shift that is refused: by a negative count, or to the left by too high a count. -/
def RefusedShift (op : Operator) (value count : Int) : Prop :=
  (op = .shiftLeft ∨ op = .shiftRight) ∧ count < 0 ∨
    op = .shiftLeft ∧ value ≠ 0 ∧ (Arithmetic.shiftLimit : Int) < count

/-- The shift count that a refusal names. -/
def Refusal.count? : Refusal → Option Int
  | zeroDivisor => none
  | negativeShift count | shiftTooLarge count => some count

/-- A refusal that names a count is one of a shift by that count. -/
theorem refusedShift_of_count {op : Operator} {first second count : Int} {refusal : Refusal}
    (refuses : op.apply first second = .error refusal) (names : refusal.count? = some count) :
    count = second ∧ RefusedShift op first second := by
  rcases refusal_cases refuses with ⟨_, _, rfl⟩ | ⟨shift, negative, rfl⟩ |
    ⟨rfl, nonzero, large, rfl⟩
  · cases names
  · cases names
    exact ⟨rfl, .inl ⟨shift, negative⟩⟩
  · cases names
    exact ⟨rfl, .inr ⟨rfl, nonzero, large⟩⟩

/-! ### Classes of failures -/

/-- The classes that failures belong to. -/
inductive FailureClass where
  | lexical | syntactic | arithmetic | unbound | digitLimit | foreign | exhausted
deriving DecidableEq, Inhabited

/-- The class that a failure belongs to. -/
def Failure.failureClass (failure : Failure) : FailureClass :=
  match failure.report, failure with
  | .refused _, _ => .digitLimit
  | .foreign _, _ => .foreign
  | .exhausted, _ | .diagnosed _ _, .exhausted => .exhausted
  | .diagnosed _ _, .parse (.scan _) => .lexical
  | .diagnosed _ _, .parse (.grammar _) => .syntactic
  | .diagnosed _ _, .evaluation (.unbound _) => .unbound
  | .diagnosed _ _, .evaluation _ => .arithmetic

/-- The classes of failures that have a report, each with the codes that occur in it. -/
def classCodes : List (FailureClass × String) :=
  [(.lexical, "L001"), (.syntactic, "P001"), (.syntactic, "P010"), (.syntactic, "P013"),
    (.syntactic, "P014"), (.arithmetic, "E001"), (.arithmetic, "E002"), (.arithmetic, "E003"),
    (.unbound, "E010")]

/-- A failure has a report under a code of its class, which names a place in a text. -/
structure Diagnosed (filename source : String) (failure : Failure) : Prop where
  report : ∃ fault diagnostic, failure.report = .diagnosed fault diagnostic ∧
    (failure.failureClass, fault.code) ∈ classCodes ∧ diagnostic.code = some fault.code ∧
    ∃ place, diagnostic.location = some place ∧ StandsIn filename source place

/-- What a calculation can come to where there is room for its evaluation. -/
inductive Classified (source : String) (symbols : List (String × Int)) :
    Except Failure Int → Prop
  | value (value : Int) : Classified source symbols (.ok value)
  | diagnosed (failure : Failure) (diagnosed : Diagnosed inputName source failure) :
    Classified source symbols (.error failure)
  /-- The parser asks for a token where a numeral stands that is too long. -/
  | numeralTooLong (failure : Failure) (value : TokenValue) (digits following : List Char)
      (tiling : Tiling inputName [] source.toList (textTape inputName source).tokens
        (digits ++ following))
      (asks : Asks (textTape inputName source).tokens)
      (numeral : Lexeme .integer value digits following) (long : digitLimit < digits.length)
      (report : failure.report = .refused (.reading digits.length)) :
    Classified source symbols (.error failure)
  /-- Evaluation gets to a shift that is refused by a count that is too long. -/
  | countTooLong (failure : Failure) (expr : Expr) (op : Operator) (first count : Int)
      (parsed : parseText inputName source = .ok expr)
      (reached : expr.Reaches (some (Bindings.ofList symbols)) op first count)
      (refused : RefusedShift op first count) (long : TooLong count)
      (report : failure.report = .refused .writing) :
    Classified source symbols (.error failure)

/-! ### Reports -/

theorem GrammarError.listed (cause : GrammarError) :
    (FailureClass.syntactic, cause.fault.code) ∈ classCodes := by
  cases cause with
  | unexpected expected found =>
    rw [fault]
    split <;> decide
  | trailing => exact (by decide : (FailureClass.syntactic, "P013") ∈ classCodes)
  | tooDeep => exact (by decide : (FailureClass.syntactic, "P014") ∈ classCodes)

/-- The report of a fault of the grammar has its code and names the place of its token. -/
theorem GrammarError.report_diagnostic (cause : GrammarError) :
    cause.diagnostic.code = some cause.fault.code ∧
      cause.diagnostic.location = some cause.found.location := by
  cases cause with
  | unexpected expected found =>
    by_cases isEnd : found.type = .endOfInput
    · simp [diagnostic, fault, Diagnostic.unexpected, isEnd, Fault.report, GrammarError.found]
    · simp [diagnostic, fault, Diagnostic.unexpected, isEnd, Fault.report, GrammarError.found]
  | _ => exact ⟨rfl, rfl⟩

section

variable {source : String} {symbols : List (String × Int)}

/-- A text that is not parsed comes to a failure of the scanner or of the grammar. -/
theorem classified_of_parseText {cause : ParseError}
    (failed : parseText inputName source = .error cause) :
    Classified source symbols (.error (.parse cause)) := by
  cases cause with
  | grammar cause =>
    obtain ⟨before, after, split, next, rejected⟩ := exists_rejected failed
    obtain ⟨code, location⟩ := cause.report_diagnostic
    exact .diagnosed _ ⟨cause.fault, cause.diagnostic, rfl, cause.listed, code,
      cause.found.location, location, standsIn_of_next split next⟩
  | scan cause =>
    rw [parseText_eq_parsed,
      Tape.parsed_eq_scan_iff (endsOnce_textTape inputName source).2] at failed
    obtain ⟨ending, asks⟩ := failed
    cases cause with
    | invalidCharacter character place =>
      have listed : (FailureClass.lexical, "L001") ∈ classCodes := by decide
      exact .diagnosed _ ⟨.invalidCharacter, _, rfl, listed, rfl, place, rfl,
        standsIn_of_invalidCharacter ending⟩
    | numeralTooLong length =>
      obtain ⟨reached, rest, split, tiling, _, stops⟩ := (textTape_eq_iff inputName source _
        (.error (.numeralTooLong length))).1 (by rw [← ending])
      cases stops with
      | numeralTooLong value digits following numeral long =>
        exact .numeralTooLong _ value digits following tiling asks numeral long rfl

variable {expr : Expr}

/-- A shift that is refused comes to a report that contains its count, or to the refusal to write
the count. -/
theorem classified_of_count {refusal : Refusal} {op : Operator} {first second count : Int}
    {place : Location} {fault : Fault} {diagnostic : String → Diagnostic}
    (parsed : parseText inputName source = .ok expr)
    (reached : expr.Reaches (some (Bindings.ofList symbols)) op first second)
    (refuses : op.apply first second = .error refusal) (names : refusal.count? = some count)
    (report : (EvaluationError.refused refusal (some place)).report =
      .ofWritten fault ((Decimal.write count).map diagnostic))
    (listed : (FailureClass.arithmetic, fault.code) ∈ classCodes)
    (code : ∀ written, (diagnostic written).code = some fault.code)
    (location : ∀ written, (diagnostic written).location = some place)
    (stands : StandsIn inputName source place) :
    Classified source symbols (.error (.evaluation (.refused refusal (some place)))) := by
  obtain ⟨rfl, refused⟩ := refusedShift_of_count refuses names
  cases written : Decimal.write count with
  | error cause =>
    obtain ⟨rfl, long⟩ := tooLong_of_write written
    rw [written] at report
    exact .countTooLong _ expr op first count parsed reached refused long report
  | ok text =>
    rw [written] at report
    have reported : (Failure.evaluation (.refused refusal (some place))).report =
        .diagnosed fault (diagnostic text) := report
    have inClass : (Failure.evaluation (.refused refusal (some place))).failureClass =
        .arithmetic := by
      unfold Failure.failureClass
      rw [reported]
    exact .diagnosed _ ⟨fault, diagnostic text, reported, by rw [inClass]; exact listed, code text,
      place, location text, stands⟩

/-- A parsed text without a value comes to a failure of an operation or of a name. -/
theorem classified_of_evaluate {cause : EvaluationError}
    (parsed : parseText inputName source = .ok expr)
    (failed : expr.evaluate (some (Bindings.ofList symbols)) = .error cause) :
    Classified source symbols (.error (.evaluation cause)) := by
  cases Expr.failsWith_of_evaluate (placed_of_parseText parsed) failed with
  | unbound failure place stands located =>
    have listed : (FailureClass.unbound, "E010") ∈ classCodes := by decide
    refine .diagnosed _ ⟨.unboundIdentifier, .unbound failure, rfl, listed, rfl, place, ?_, stands⟩
    rw [Diagnostic.unbound, Fault.report, located]
    rfl
  | refused refusal place op first second stands reached refuses =>
    cases refusal with
    | zeroDivisor =>
      have listed : (FailureClass.arithmetic, "E001") ∈ classCodes := by decide
      exact .diagnosed _ ⟨.divisionByZero, _, rfl, listed, rfl, place, rfl, stands⟩
    | negativeShift count =>
      refine classified_of_count parsed reached refuses rfl
        (by rw [EvaluationError.report, Diagnostic.negativeShift]) ?_ ?_ ?_ stands
      · decide
      · exact fun _ => rfl
      · exact fun _ => rfl
    | shiftTooLarge count =>
      refine classified_of_count parsed reached refuses rfl
        (by rw [EvaluationError.report, Diagnostic.shiftTooLarge]) ?_ ?_ ?_ stands
      · decide
      · exact fun _ => rfl
      · exact fun _ => rfl

end

/-- A calculation comes to one of the outcomes that are listed. -/
theorem classified_calculateText (source : String) (symbols : List (String × Int)) :
    Classified source symbols (calculateText source symbols) := by
  cases parsed : parseText inputName source with
  | error cause =>
    rw [calculateText_of_error symbols parsed]
    exact classified_of_parseText parsed
  | ok expr =>
    rw [calculateText_of_ok symbols parsed]
    cases evaluated : expr.evaluate (some (Bindings.ofList symbols)) with
    | error cause => exact classified_of_evaluate parsed evaluated
    | ok value => exact .value value

/-! ### On a stack -/

section

variable {source : String} (symbols : List (String × Int)) (room : Nat)

theorem calculateTextWithin_of_error {cause : ParseError}
    (failed : parseText inputName source = .error cause) :
    calculateTextWithin room source symbols = .error (.parse cause) := by
  rw [calculateTextWithin, calculateWithin, failed]

theorem calculateTextWithin_of_ok {expr : Expr} (parsed : parseText inputName source = .ok expr) :
    calculateTextWithin room source symbols =
      (expr.evaluateWithin (some (Bindings.ofList symbols)) room).mapError
        Interruption.failure := by
  rw [calculateTextWithin, calculateWithin, parsed]

end

/-- The text is parsed, and its evaluation would have more evaluations under way at once than there
is room for. That many there are only where bare conditions come on top of the nesting limit. -/
def Exhausts (source : String) (symbols : List (String × Int)) (room : Nat) : Prop :=
  ∃ expr, parseText inputName source = .ok expr ∧
    expr.evaluateWithin (some (Bindings.ofList symbols)) room = .error .tooDeep ∧
    room < nestingLimit + expr.bareConditions

/-- Every calculation on a stack comes to one of the outcomes that are listed, to the one that it
comes to without a bound, or the stack is exhausted; and it is not if there is room for twice as
many evaluations as expressions may nest, less one. What the program would do if it failed inside
makes no difference, and every node of a tree that it parses is an expression that starts in the
text. -/
theorem calculateTextWithin_classified (room : Nat) (source : String)
    (symbols : List (String × Int)) :
    (match calculateTextWithin room source symbols with
      | .error .exhausted => Exhausts source symbols room ∧ room < 2 * nestingLimit - 1
      | outcome => Classified source symbols outcome ∧ outcome = calculateText source symbols) ∧
      (∀ crash, Tabled.calculateTextWithin crash room source symbols =
        calculateTextWithin room source symbols) ∧
      ∀ expr, parseText inputName source = .ok expr →
        expr.Placed (StandsIn inputName source) := by
  refine ⟨?_, fun crash => Tabled.calculateTextWithin_eq crash room source symbols,
    fun expr => placed_of_parseText⟩
  have classified := classified_calculateText source symbols
  cases parsed : parseText inputName source with
  | error cause =>
    rw [calculateText_of_error symbols parsed] at classified ⊢
    rw [calculateTextWithin_of_error symbols room parsed]
    exact ⟨classified, rfl⟩
  | ok expr =>
    rw [calculateText_of_ok symbols parsed] at classified ⊢
    rw [calculateTextWithin_of_ok symbols room parsed]
    obtain broken | same := expr.evaluateWithin_breaksOffOrEquals (some (.ofList symbols)) room
    · obtain ⟨few, enough⟩ := evaluateWithin_of_parseText parsed (some (.ofList symbols))
      have less : room < nestingLimit + expr.bareConditions := by
        refine Nat.lt_of_not_le fun fits => ?_
        rw [enough room fits] at broken
        cases evaluated : expr.evaluate (some (Bindings.ofList symbols)) <;>
          rw [evaluated] at broken <;> cases broken
      rw [broken]
      exact ⟨⟨expr, parsed, broken, less⟩, by omega⟩
    · rw [same]
      cases evaluated : expr.evaluate (some (Bindings.ofList symbols)) <;>
        rw [evaluated] at classified <;> exact ⟨classified, rfl⟩

/-! ### Staircases on a stack -/

/-- A staircase is calculated if there is room for an evaluation at its foot and two on each of its
steps, and exhausts the stack if there is not. -/
theorem calculateTextWithin_staircase (room steps : Nat) (few : steps < nestingLimit)
    (symbols : List (String × Int)) :
    calculateTextWithin room (staircase steps) symbols =
      if 2 * steps + 1 ≤ room then .ok (if steps = 0 then 1 else 2) else .error .exhausted := by
  obtain ⟨expr, parsed, alike⟩ := parseText_staircase inputName steps few
  rw [calculateTextWithin_of_ok symbols room parsed, evaluateWithin_stairs _ alike]
  by_cases enough : 2 * steps + 1 ≤ room
  · rw [if_pos enough, if_pos enough]
    rfl
  · rw [if_neg enough, if_neg enough]
    rfl

/-- A staircase with as many steps as can be parsed has a value, but no room on the stack; and that
is none of the outcomes that are listed. -/
theorem staircase_exhausts_stack :
    (∃ expr, parseText inputName (staircase 255) = .ok expr) ∧
      calculateText (staircase 255) [] = .ok 2 ∧
      calculateTextWithin stackRoom (staircase 255) [] = .error .exhausted ∧
      ¬ Classified (staircase 255) [] (calculateTextWithin stackRoom (staircase 255) []) := by
  obtain ⟨expr, parsed, alike⟩ := parseText_staircase inputName 255 (by decide)
  have exhausted : calculateTextWithin stackRoom (staircase 255) [] = .error .exhausted :=
    calculateTextWithin_staircase stackRoom 255 (by decide) []
  refine ⟨⟨expr, parsed⟩, ?_, exhausted, ?_⟩
  · rw [calculateText_of_ok [] parsed, evaluate_stairs _ alike]
    rfl
  · rw [exhausted]
    intro classified
    cases classified with
    | diagnosed _ diagnosed =>
      obtain ⟨_, _, report, _⟩ := diagnosed.report
      cases report
    | numeralTooLong _ _ _ _ _ _ _ _ report => cases report
    | countTooLong _ _ _ _ _ _ _ _ _ report => cases report

end IntExpr
