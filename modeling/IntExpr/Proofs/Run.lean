/-
This file proves how a run of the command line ends. Its texts come to values that are printed, up
to the first that does not; the report of that one is written and ends the run. But where an
integer is too long to be read or to be written there is no report, and the run is abandoned
instead. This happens in three cases: the parser comes upon a numeral that is too long, a value is
too long to be printed, or the count of a refused shift is too long for the report of it. A log
adds to the error output, and a run with a log ends as it does without one.
-/

import IntExpr.Proofs.Calls
import IntExpr.Proofs.Classification
import IntExpr.Proofs.Outline

namespace IntExpr

/-! ### Writing and numbers that are too long -/

theorem length_digits_le {number limit : Nat} (short : number < Nat.pow 10 limit) :
    (Nat.digits 10 number).length ≤ limit :=
  (Nat.digits_length_le_iff (by decide) number).2 short

theorem write_of_tooLong {number : Int} (long : TooLong number) :
    Decimal.write number = .error .writing :=
  if_neg fun short => absurd (length_digits_le short) (Nat.not_le_of_lt long)

theorem write_of_short {number : Int} (short : ¬ TooLong number) :
    Decimal.write number = .ok (Decimal.text number) := by
  refine if_pos (Decidable.not_not.1 fun long => short ?_)
  exact lt_length_digits long

/-- The report of a refused shift cannot be written if its count is too long. -/
theorem report_of_tooLong {refusal : Refusal} {count : Int} (names : refusal.count? = some count)
    (long : TooLong count) (place : Option Location) :
    (EvaluationError.refused refusal place).report = .refused .writing := by
  cases refusal with
  | zeroDivisor => cases names
  | negativeShift =>
    cases names
    rw [EvaluationError.report, Diagnostic.negativeShift, write_of_tooLong long]
    rfl
  | shiftTooLarge =>
    cases names
    rw [EvaluationError.report, Diagnostic.shiftTooLarge, write_of_tooLong long]
    rfl

/-- Otherwise there is a report. -/
theorem exists_report_of_refused (refusal : Refusal) (place : Option Location) :
    (∃ fault diagnostic,
      (EvaluationError.refused refusal place).report = .diagnosed fault diagnostic) ∨
    ∃ count, refusal.count? = some count ∧ TooLong count := by
  by_cases long : ∃ count, refusal.count? = some count ∧ TooLong count
  · exact .inr long
  · refine .inl ?_
    cases refusal with
    | zeroDivisor => exact ⟨_, _, rfl⟩
    | negativeShift count =>
      have short : ¬ TooLong count := fun tooLong => long ⟨count, rfl, tooLong⟩
      rw [EvaluationError.report, Diagnostic.negativeShift, write_of_short short]
      exact ⟨_, _, rfl⟩
    | shiftTooLarge count =>
      have short : ¬ TooLong count := fun tooLong => long ⟨count, rfl, tooLong⟩
      rw [EvaluationError.report, Diagnostic.shiftTooLarge, write_of_short short]
      exact ⟨_, _, rfl⟩

namespace CommandLine

/-! ### What a text comes to -/

section

variable (bindings : Bindings) (text : String × String)

/-- A named text comes to a value that can be printed. -/
def Yields (value : Int) : Prop :=
  calculate text.1 text.2 (some bindings) = .ok value ∧ ¬ TooLong value

/-- A named text comes to a failure that is reported. -/
def Reports (fault : Fault) (diagnostic : Diagnostic) : Prop :=
  ∃ failure, calculate text.1 text.2 (some bindings) = .error failure ∧
    failure.report = .diagnosed fault diagnostic

/-- An integer of a named text is refused for its length. -/
inductive Refuses : DigitLimitError → Prop
  /-- The parser comes upon a numeral that is too long to be read. -/
  | numeral (digits : Nat)
      (failed : calculate text.1 text.2 (some bindings) =
        .error (.parse (.scan (.numeralTooLong digits)))) : Refuses (.reading digits)
  /-- A shift is refused whose count is too long for a report. -/
  | count (refusal : Refusal) (place : Option Location) (count : Int)
      (failed : calculate text.1 text.2 (some bindings) =
        .error (.evaluation (.refused refusal place)))
      (names : refusal.count? = some count) (long : TooLong count) : Refuses .writing
  /-- The value is too long to be printed. -/
  | value (value : Int) (calculated : calculate text.1 text.2 (some bindings) = .ok value)
      (long : TooLong value) : Refuses .writing

/-- A text yields a value, is reported or is refused. -/
theorem yields_or_reports_or_refuses :
    (∃ value, Yields bindings text value) ∨
      (∃ fault diagnostic, Reports bindings text fault diagnostic) ∨
        ∃ cause, Refuses bindings text cause := by
  cases calculated : calculate text.1 text.2 (some bindings) with
  | ok value =>
    by_cases long : TooLong value
    · exact .inr (.inr ⟨.writing, .value value calculated long⟩)
    · exact .inl ⟨value, calculated, long⟩
  | error failure =>
    refine .inr ?_
    obtain ⟨cause, rfl, _⟩ | ⟨expr, cause, rfl, _, fails⟩ := failure_of_calculate calculated
    · cases cause with
      | grammar cause => exact .inl ⟨_, _, _, calculated, rfl⟩
      | scan cause =>
        cases cause with
        | invalidCharacter => exact .inl ⟨_, _, _, calculated, rfl⟩
        | numeralTooLong digits => exact .inr ⟨_, .numeral digits calculated⟩
    · cases fails with
      | unbound failure => exact .inl ⟨_, _, _, calculated, rfl⟩
      | refused refusal place =>
        obtain ⟨fault, diagnostic, report⟩ | ⟨count, names, long⟩ :=
          exists_report_of_refused refusal (some place)
        · exact .inl ⟨fault, diagnostic, _, calculated, report⟩
        · exact .inr ⟨_, .count refusal _ count calculated names long⟩

variable {bindings} {text}

/-- A text that comes to a value is not refused. -/
theorem Yields.not_refuses {value : Int} (yields : Yields bindings text value)
    (cause : DigitLimitError) : ¬ Refuses bindings text cause := by
  intro refuses
  obtain ⟨calculated, short⟩ := yields
  cases refuses with
  | numeral digits failed => cases calculated.symm.trans failed
  | count refusal place count failed => cases calculated.symm.trans failed
  | value other calculatedOther long =>
    cases calculated.symm.trans calculatedOther
    exact short long

/-- Nor is one that is reported. -/
theorem Reports.not_refuses {fault : Fault} {diagnostic : Diagnostic}
    (reports : Reports bindings text fault diagnostic) (cause : DigitLimitError) :
    ¬ Refuses bindings text cause := by
  intro refuses
  obtain ⟨failure, calculated, report⟩ := reports
  cases refuses with
  | numeral digits failed =>
    cases calculated.symm.trans failed
    cases report
  | count refusal place count failed names long =>
    cases calculated.symm.trans failed
    rw [Failure.report, report_of_tooLong names long] at report
    cases report
  | value value calculatedOther => cases calculated.symm.trans calculatedOther

end

/-! ### What a text writes -/

/-- The lines of a tree, if there is one. -/
def treeLines : Except ParseError Expr → String
  | .ok expr => ((expr.outline treeIndent).map (· ++ "\n")).toOption.getD ""
  | .error _ => ""

/-- The tree of a named text, if trees are shown. -/
def shownTree (tree : Bool) (text : String × String) : String :=
  if tree then treeLines (parseText text.1 text.2) else ""

/-- What a value adds to a run, if it can be written. -/
def valuePart (json : Bool) (source shown : String) : Except DigitLimitError String → Part
  | .ok written => ⟨shown ++ resultLine json source written, "", none⟩
  | .error cause => ⟨shown, "", some (.abandoned cause.message)⟩

/-- What a failure adds to a run that keeps no log. -/
def reportPart (json : Bool) (source shown : String) : Report → Part
  | .diagnosed fault diagnostic =>
    ⟨shown ++ failureLine json source fault diagnostic, diagnostic.text, some (.exit 1)⟩
  | report => ⟨shown, "", some (.abandoned report.text)⟩

/-- What a text adds to a run once its tree has been shown, by what it comes to. -/
def conclusion (json : Bool) (source shown : String) : Except Failure Int → Part
  | .error failure => reportPart json source shown failure.report
  | .ok value => valuePart json source shown (Decimal.write value)

section

variable {traceback : Traceback} {settings : Settings} (bindings : Bindings)

theorem failed_eq_reportPart (quiet : settings.verbose = false) (filename source shown : String)
    (report : Report) :
    failed traceback settings bindings filename source shown "" report =
      reportPart settings.json source shown report := by
  cases report with
  | diagnosed fault diagnostic =>
    rw [failed, failureLog, logLine, quiet, if_neg (by decide), String.empty_append,
      String.empty_append, reportPart]
  | refused cause => rfl
  | foreign message => rfl
  | exhausted => rfl

/-- Where nothing is logged a text shows its tree and concludes with what it comes to. -/
theorem expressionPart_eq (quiet : settings.verbose = false) (text : String × String) :
    expressionPart traceback settings bindings text.1 text.2 =
      conclusion settings.json text.2 (shownTree settings.tree text)
        (calculate text.1 text.2 (some bindings)) := by
  have evaluated (expr : Expr) (shown : String) :
      evaluatePart traceback settings bindings text.1 text.2 expr shown "" =
        conclusion settings.json text.2 shown (evaluateTree (some bindings) expr) := by
    unfold evaluatePart
    cases evaluateTree (some bindings) expr with
    | error failure => exact failed_eq_reportPart bindings quiet text.1 text.2 shown failure.report
    | ok value =>
      rw [conclusion]
      dsimp only
      generalize Decimal.write value = written
      cases written <;> rfl
  unfold expressionPart calculate shownTree
  simp only [parsingLog, parsedLog, logLine, quiet, Bool.false_eq_true, if_false,
    String.append_empty, failed_eq_reportPart bindings quiet]
  cases parsed : parseText text.1 text.2 with
  | error cause => cases settings.tree <;> rfl
  | ok expr =>
    cases settings.tree with
    | false => exact evaluated expr ""
    | true =>
      obtain ⟨outline, written⟩ := exists_outline_of_parseText parsed treeIndent
      simp only [if_true, treeLines, written]
      exact evaluated expr (outline ++ "\n")

variable {bindings} {text : String × String}

theorem expressionPart_of_yields (quiet : settings.verbose = false) {value : Int}
    (yields : Yields bindings text value) :
    expressionPart traceback settings bindings text.1 text.2 =
      ⟨shownTree settings.tree text ++ resultLine settings.json text.2 (Decimal.text value), "",
        none⟩ := by
  rw [expressionPart_eq bindings quiet, yields.1, conclusion, write_of_short yields.2,
    valuePart]

theorem expressionPart_of_reports (quiet : settings.verbose = false) {fault : Fault}
    {diagnostic : Diagnostic} (reports : Reports bindings text fault diagnostic) :
    expressionPart traceback settings bindings text.1 text.2 =
      ⟨shownTree settings.tree text ++ failureLine settings.json text.2 fault diagnostic,
        diagnostic.text, some (.exit 1)⟩ := by
  obtain ⟨failure, calculated, report⟩ := reports
  rw [expressionPart_eq bindings quiet, calculated, conclusion, report, reportPart]

theorem expressionPart_of_refuses (quiet : settings.verbose = false) {cause : DigitLimitError}
    (refuses : Refuses bindings text cause) :
    expressionPart traceback settings bindings text.1 text.2 =
      ⟨shownTree settings.tree text, "", some (.abandoned cause.message)⟩ := by
  cases refuses with
  | numeral digits calculated =>
    rw [expressionPart_eq bindings quiet, calculated]
    rfl
  | count refusal place count calculated names long =>
    rw [expressionPart_eq bindings quiet, calculated, conclusion, Failure.report,
      report_of_tooLong names long]
    rfl
  | value value calculated long =>
    rw [expressionPart_eq bindings quiet, calculated, conclusion, write_of_tooLong long, valuePart]

end

/-! ### Texts one after the other -/

/-- What a part and the rest of a run behind it leave behind. -/
def Part.before (part : Part) (rest : Outcome) : Outcome :=
  match part.ending with
  | some ending => ⟨part.stdout, part.stderr, ending⟩
  | none => ⟨part.stdout ++ rest.stdout, part.stderr ++ rest.stderr, rest.ending⟩

/-- What some named texts leave behind. -/
def runTexts (traceback : Traceback) (settings : Settings) (bindings : Bindings)
    (texts : List (String × String)) : Outcome :=
  texts.foldr (fun text => (expressionPart traceback settings bindings text.1 text.2).before)
    ⟨"", "", .exit 0⟩

/-- The expressions of a run with their names, from some index on. -/
def named (count index : Nat) : List String → List (String × String)
  | [] => []
  | source :: sources => (expressionName count index, source) :: named count (index + 1) sources

theorem runFrom_eq_runTexts (traceback : Traceback) (settings : Settings) (bindings : Bindings)
    (count index : Nat) (sources : List String) :
    runFrom traceback settings bindings count index sources =
      runTexts traceback settings bindings (named count index sources) := by
  induction sources generalizing index with
  | nil => rfl
  | cons source sources inductionHypothesis =>
    show (expressionPart traceback settings bindings (expressionName count index) source).before
      (runFrom traceback settings bindings count (index + 1) sources) = _
    rw [inductionHypothesis]
    rfl

/-- What texts with values have written, each with its tree in front if trees are shown. -/
def printed (tree json : Bool) (texts : List (String × String)) (values : List Int) : String :=
  String.join (List.zipWith
    (fun text value => shownTree tree text ++ resultLine json text.2 (Decimal.text value))
    texts values)

/-- How a run over some texts ends. -/
inductive Ends (tree json : Bool) (bindings : Bindings) (texts : List (String × String)) :
    Outcome → Prop
  /-- One result is printed for each text. -/
  | finished (values : List Int) (yield : List.Forall₂ (Yields bindings) texts values) :
    Ends tree json bindings texts ⟨printed tree json texts values, "", .exit 0⟩
  /-- The first text without a result is reported. -/
  | reported (before after : List (String × String)) (text : String × String) (values : List Int)
      (fault : Fault) (diagnostic : Diagnostic) (split : texts = before ++ text :: after)
      (yield : List.Forall₂ (Yields bindings) before values)
      (reports : Reports bindings text fault diagnostic) :
    Ends tree json bindings texts
      ⟨printed tree json before values ++
        (shownTree tree text ++ failureLine json text.2 fault diagnostic), diagnostic.text, .exit 1⟩
  /-- The first text without a result is refused for the length of an integer. -/
  | abandoned (before after : List (String × String)) (text : String × String) (values : List Int)
      (cause : DigitLimitError) (split : texts = before ++ text :: after)
      (yield : List.Forall₂ (Yields bindings) before values)
      (refuses : Refuses bindings text cause) :
    Ends tree json bindings texts
      ⟨printed tree json before values ++ shownTree tree text, "", .abandoned cause.message⟩

section

variable {traceback : Traceback} {settings : Settings} {bindings : Bindings}
  (quiet : settings.verbose = false)

include quiet

/-- Texts with values are printed, and the run goes on behind them. -/
theorem runTexts_append {before : List (String × String)} {values : List Int}
    (yield : List.Forall₂ (Yields bindings) before values) (texts : List (String × String)) :
    runTexts traceback settings bindings (before ++ texts) =
      ⟨printed settings.tree settings.json before values ++
          (runTexts traceback settings bindings texts).stdout,
        (runTexts traceback settings bindings texts).stderr,
        (runTexts traceback settings bindings texts).ending⟩ := by
  induction yield with
  | nil => simp [printed]
  | cons yields _ inductionHypothesis =>
    rw [List.cons_append, runTexts, List.foldr_cons, ← runTexts, inductionHypothesis,
      expressionPart_of_yields quiet yields]
    simp [Part.before, printed, String.append_assoc]

/-- A run over some texts ends in the way that is said of them. -/
theorem runTexts_of_ends {texts : List (String × String)} {outcome : Outcome}
    (ends : Ends settings.tree settings.json bindings texts outcome) :
    runTexts traceback settings bindings texts = outcome := by
  cases ends with
  | finished values yield =>
    calc runTexts traceback settings bindings texts
        = runTexts traceback settings bindings (texts ++ []) := by rw [List.append_nil]
      _ = _ := by rw [runTexts_append quiet yield]; simp [runTexts]
  | reported before after text values fault diagnostic split yield reports =>
    rw [split, runTexts_append quiet yield, runTexts, List.foldr_cons,
      expressionPart_of_reports quiet reports]
    rfl
  | abandoned before after text values cause split yield refuses =>
    rw [split, runTexts_append quiet yield, runTexts, List.foldr_cons,
      expressionPart_of_refuses quiet refuses]
    rfl

end

/-- One more text with a value in front. -/
theorem Ends.cons {tree json : Bool} {bindings : Bindings} {texts : List (String × String)}
    {outcome : Outcome} (ends : Ends tree json bindings texts outcome) {text : String × String}
    {value : Int} (yields : Yields bindings text value) :
    ∃ outcome, Ends tree json bindings (text :: texts) outcome := by
  cases ends with
  | finished values yield => exact ⟨_, .finished (value :: values) (.cons yields yield)⟩
  | reported before after other values fault diagnostic split yield reports =>
    exact ⟨_, .reported (text :: before) after other (value :: values) fault diagnostic
      (by rw [split, List.cons_append]) (.cons yields yield) reports⟩
  | abandoned before after other values cause split yield refuses =>
    exact ⟨_, .abandoned (text :: before) after other (value :: values) cause
      (by rw [split, List.cons_append]) (.cons yields yield) refuses⟩

/-- Something is said of any texts. -/
theorem exists_ends (tree json : Bool) (bindings : Bindings) (texts : List (String × String)) :
    ∃ outcome, Ends tree json bindings texts outcome := by
  induction texts with
  | nil => exact ⟨_, .finished [] .nil⟩
  | cons text texts inductionHypothesis =>
    obtain ⟨outcome, ends⟩ := inductionHypothesis
    obtain ⟨value, yields⟩ | ⟨fault, diagnostic, reports⟩ | ⟨cause, refuses⟩ :=
      yields_or_reports_or_refuses bindings text
    · exact ends.cons yields
    · exact ⟨_, .reported [] texts text [] fault diagnostic rfl .nil reports⟩
    · exact ⟨_, .abandoned [] texts text [] cause rfl .nil refuses⟩

/-! ### The log -/

/-- The settings without a log. -/
def Settings.quiet (settings : Settings) : Settings :=
  { settings with verbose := false }

/-- What a part writes as its result, and how it ends. -/
def Part.result (part : Part) : String × Option Ending := (part.stdout, part.ending)

/-- What a run writes as its results, and how it ends. -/
def Outcome.result (outcome : Outcome) : String × Ending := (outcome.stdout, outcome.ending)

section

variable (traceback : Traceback) (settings : Settings) (bindings : Bindings)
  {filename source stdout stderr other : String}

theorem failed_quiet (report : Report) :
    (failed traceback settings bindings filename source stdout stderr report).result =
      (failed traceback settings.quiet bindings filename source stdout other report).result := by
  cases report <;> rfl

theorem evaluatePart_quiet (expr : Expr) :
    (evaluatePart traceback settings bindings filename source expr stdout stderr).result =
      (evaluatePart traceback settings.quiet bindings filename source expr stdout
        other).result := by
  unfold evaluatePart
  cases evaluateTree (some bindings) expr with
  | error cause => exact failed_quiet traceback settings bindings cause.report
  | ok value =>
    dsimp only
    generalize Decimal.write value = written
    cases written <;> rfl

theorem expressionPart_quiet (filename source : String) :
    (expressionPart traceback settings bindings filename source).result =
      (expressionPart traceback settings.quiet bindings filename source).result := by
  have sameTree : settings.quiet.tree = settings.tree := rfl
  unfold expressionPart
  rw [sameTree]
  cases parseText filename source with
  | error cause => exact failed_quiet traceback settings bindings cause.report
  | ok expr =>
    cases settings.tree with
    | false =>
      simp only [Bool.false_eq_true, if_false]
      exact evaluatePart_quiet traceback settings bindings expr
    | true =>
      simp only [if_true]
      cases expr.outline treeIndent with
      | ok outline => exact evaluatePart_quiet traceback settings bindings expr
      | error cause => rfl

theorem runFrom_quiet (count index : Nat) (sources : List String) :
    (runFrom traceback settings bindings count index sources).result =
      (runFrom traceback settings.quiet bindings count index sources).result := by
  induction sources generalizing index with
  | nil => rfl
  | cons source sources inductionHypothesis =>
    obtain ⟨sameWritten, sameEnding⟩ := Prod.mk.inj
      (expressionPart_quiet traceback settings bindings (expressionName count index) source)
    obtain ⟨sameRest, sameLast⟩ := Prod.mk.inj (inductionHypothesis (index + 1))
    unfold runFrom
    dsimp only
    rw [← sameEnding]
    split
    · rw [Outcome.result, sameWritten]
      rfl
    · rw [Outcome.result, sameWritten, sameRest, sameLast]
      rfl

/-- The log adds to the error output and changes nothing else of a run. -/
theorem runSettings_quiet :
    (runSettings traceback settings).result = (runSettings traceback settings.quiet).result := by
  unfold runSettings
  split
  case h_1 index found =>
    rw [show settings.quiet.bindings.findIdx? Option.isNone = some index from found]
  case h_2 filled =>
    rw [show settings.quiet.bindings.findIdx? Option.isNone = none from filled]
    exact runFrom_quiet traceback settings _ settings.sources.length 1 settings.sources

end

/-! ### Runs -/

/-- The expressions that are run: those that were given, or the one for when none was. -/
def sourcesOf : List String → List String
  | [] => [defaultExpression]
  | sources => sources

/-- The expressions of a run with their names. -/
def textsOf (sources : List String) : List (String × String) :=
  named (sourcesOf sources).length 1 (sourcesOf sources)

section

variable {arguments sources : List String} {tree json : Bool} {pairs : List (String × Int)}

theorem findIdx_isNone (pairs : List (String × Int)) :
    (pairs.map some).findIdx? Option.isNone = none := by
  refine List.findIdx?_eq_none_iff.2 fun binding member => ?_
  obtain ⟨pair, _, rfl⟩ := List.mem_map.1 member
  rfl

theorem bindingsLog_quiet (bindings : Bindings) : bindingsLog false bindings = "" := by
  rw [bindingsLog]
  induction bindings.symbols with
  | nil => rfl
  | cons symbol symbols inductionHypothesis =>
    rw [List.map_cons, String.join_cons, inductionHypothesis]
    rfl

/-- A call runs the expressions that it asks for under the bindings that it asks for. -/
theorem run_eq_runTexts (traceback : Traceback) (asks : Asks arguments tree json pairs sources) :
    ∃ settings : Settings, settings.tree = tree ∧ settings.json = json ∧
      settings.verbose = false ∧
      run traceback arguments = runTexts traceback settings (.ofList pairs) (textsOf sources) := by
  obtain ⟨expressions, asked, rfl⟩ := asks
  refine ⟨⟨expressions, pairs.map some, tree, json, false, []⟩, rfl, rfl, rfl, ?_⟩
  have given : (Settings.mk expressions (pairs.map some) tree json false []).sources =
      sourcesOf (expressions.getD []) := by
    cases expressions with
    | none => rfl
    | some sources => cases sources <;> rfl
  have taken : (pairs.map some).filterMap id = pairs := by simp
  rw [run, asked]
  dsimp only
  rw [runSettings, findIdx_isNone]
  dsimp only
  rw [taken, runUnder, given, runFrom_eq_runTexts, bindingsLog_quiet, String.empty_append, textsOf]

variable {traceback : Traceback}

/-- A call ends in the way that is said of its texts. -/
theorem run_of_ends (asks : Asks arguments tree json pairs sources) {outcome : Outcome}
    (ends : Ends tree json (.ofList pairs) (textsOf sources) outcome) :
    run traceback arguments = outcome := by
  obtain ⟨settings, rfl, rfl, quiet, ran⟩ := run_eq_runTexts traceback asks
  exact ran.trans (runTexts_of_ends quiet ends)

/-- A call that asks for some bindings, flags and expressions ends in the way that is said of its
texts and in no other. Unless an integer is too long in one of them it ends with status zero and a
result for each, or with status one and the report of the first that fails. -/
theorem run_eq_iff_ends (asks : Asks arguments tree json pairs sources) :
    (∀ outcome, run traceback arguments = outcome ↔
      Ends tree json (.ofList pairs) (textsOf sources) outcome) ∧
    ((∀ text ∈ textsOf sources, ∀ cause, ¬ Refuses (.ofList pairs) text cause) →
      (run traceback arguments).ending = .exit 0 ∨ (run traceback arguments).ending = .exit 1) := by
  obtain ⟨outcome, ends⟩ := exists_ends tree json (.ofList pairs) (textsOf sources)
  have ran : run traceback arguments = outcome := run_of_ends asks ends
  refine ⟨fun other => ⟨fun same => ?_, run_of_ends asks⟩, fun none => ?_⟩
  · rwa [← same, ran]
  rw [ran]
  cases ends with
  | finished => exact .inl rfl
  | reported => exact .inr rfl
  | abandoned before after text values cause split _ refuses =>
    exact absurd refuses (none text (by rw [split]; simp) cause)

end

/-- With a binding of `x` to seven, `x+1` is printed as eight. -/
theorem run_of_sum_ends :
    Ends false false (.ofList [("x", 7)]) (textsOf ["x+1"]) ⟨"8\n", "", .exit 0⟩ ∧
      ((run untraced (call false false ["x=7"] ["x+1"])).ending = .exit 0 ∨
        (run untraced (call false false ["x=7"] ["x+1"])).ending = .exit 1) := by
  have asks : Asks (call false false ["x=7"] ["x+1"]) false false [("x", 7)] ["x+1"] :=
    asks_call false false (.cons rfl .nil) ["x+1"]
  have yields : Yields (.ofList [("x", 7)]) (expressionName 1 1, "x+1") 8 :=
    ⟨by decide +kernel, by simp [TooLong, digitLimit]⟩
  obtain ⟨ends, ending⟩ := run_eq_iff_ends asks
  refine ⟨(ends _).1 (by decide +kernel), ending fun text member cause => ?_⟩
  rw [List.mem_singleton.1 member]
  exact yields.not_refuses cause

/-- The count of this shift has 4933 digits. It is refused for its size, and as it is too long to be
written in the report, the run is abandoned. -/
theorem run_of_long_count_abandoned :
    run untraced ["1 << (1<<4096<<4096<<4096<<4096)"] =
      ⟨"", "", .abandoned DigitLimitError.writing.message⟩ := by
  decide +kernel

end CommandLine

end IntExpr
