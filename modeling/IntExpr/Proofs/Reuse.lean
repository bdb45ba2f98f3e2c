/-
This file proves that using a calculator leaves no trace in what it calculates next. Whatever was
done with it before, and however that failed, a text has the same value, the same tree or the same
failure as with a calculator that has not been used and whose table gives the same values to
names, in whatever order these were declared. Parsing sets back what the parser has kept; of the
scanner only the name of the text matters; and no step but a declaration changes the table.
-/

import IntExpr.Calculator
import IntExpr.Proofs.Lookups
import IntExpr.Proofs.StatefulParser
import IntExpr.Proofs.Suggestions

namespace IntExpr

namespace Bindings

/-! ### Tables that give the same values -/

/-- Two tables give the same values to the same names. -/
def SameValues (first second : Bindings) : Prop :=
  ∀ name, (first.lookup name).map Symbol.value = (second.lookup name).map Symbol.value

theorem distinct_declareAll {bindings : Bindings} (distinct : bindings.Distinct)
    (symbols : List Symbol) : (bindings.declareAll symbols).Distinct := by
  induction symbols generalizing bindings with
  | nil => exact distinct
  | cons symbol symbols inductionHypothesis =>
    exact inductionHypothesis (distinct_store distinct symbol)

@[simp] theorem declareAll_append (bindings : Bindings) (first second : List Symbol) :
    bindings.declareAll (first ++ second) = (bindings.declareAll first).declareAll second :=
  List.foldl_append

variable {first second : Bindings}

theorem SameValues.mem_boundNames_iff (same : first.SameValues second) (name : String) :
    name ∈ first.boundNames ↔ name ∈ second.boundNames := by
  rw [Bindings.mem_boundNames_iff, Bindings.mem_boundNames_iff, ← Option.isSome_map, same name,
    Option.isSome_map]

/-- In such tables a name is looked up with the same outcome, suggestions included. -/
theorem SameValues.valueOf_eq (same : first.SameValues second) (firstDistinct : first.Distinct)
    (secondDistinct : second.Distinct) (name : String) (place : Option Location) :
    valueOf (some first) name place = valueOf (some second) name place := by
  have value := same name
  simp only [valueOf, get,
    similar_eq firstDistinct secondDistinct same.mem_boundNames_iff name suggestionReach]
  cases firstFound : first.lookup name with
  | none =>
    rw [firstFound] at value
    rw [Option.map_eq_none_iff.1 value.symm]
  | some symbol =>
    rw [firstFound] at value
    obtain ⟨other, secondFound, sameValue⟩ := Option.map_eq_some_iff.1 value.symm
    rw [secondFound]
    exact congrArg Except.ok sameValue.symm

/-- Under such tables a tree has the same value or fails in the same way. -/
theorem SameValues.evaluate_eq (same : first.SameValues second) (firstDistinct : first.Distinct)
    (secondDistinct : second.Distinct) (expr : Expr) :
    expr.evaluate (some first) = expr.evaluate (some second) := by
  have unchanged (outcome : Except EvaluationError Int) : outcome.mapError id = outcome := by
    cases outcome <;> rfl
  have agrees := (Expr.meaning_agrees id (some second) (some first) expr fun name _ place => by
    rw [same.valueOf_eq firstDistinct secondDistinct]).1
  rwa [unchanged, unchanged, ← (Expr.evaluate_and_follow _).1,
    ← (Expr.evaluate_and_follow _).1] at agrees

end Bindings

/-! ### What steps leave alone -/

/-- The symbol that a step declares, if it does. -/
def Step.declared : Step → List Symbol
  | declare name value location => value.integer?.toList.map (⟨name, ·, location⟩)
  | _ => []

namespace Session

section

variable {Result : Type} {step : Scan Result} (session : Session) (answer : Result → Answer)

theorem scanner_reading (step : Scan Result) :
    (session.reading step answer).2.scanner = endState (step session.scanner) := by
  unfold reading
  cases step session.scanner <;> rfl

@[simp] theorem bindings_reading (step : Scan Result) :
    (session.reading step answer).2.bindings = session.bindings := by
  unfold reading
  cases step session.scanner <;> rfl

/-- What a step of the scanner keeps, it keeps in a session, too. -/
theorem keeps_reading {holds : Scanner → Prop} {session : Session} (kept : Keeps holds step)
    (here : holds session.scanner) : holds (session.reading step answer).2.scanner := by
  rw [scanner_reading]
  exact kept session.scanner here

end

end Session

namespace Calculator

variable (beyond : Level → StatefulParse Expr)

/-- A calculator answers as its session does, and the session becomes the same; the name of its
texts stays, and its table changes only by a declaration. -/
theorem step_eq (calculator : Calculator) (step : Step) :
    (calculator.step beyond step).1 = (calculator.session.step step).1 ∧
      (calculator.step beyond step).2.session = (calculator.session.step step).2 ∧
      (calculator.session.step step).2.scanner.filename = calculator.session.scanner.filename ∧
      (calculator.session.step step).2.bindings =
        calculator.session.bindings.declareAll step.declared := by
  have kept := Scanner.readingKeeps_filename calculator.session.scanner.filename
  cases step with
  | evaluate source | parse _ source =>
    obtain ⟨after, named, ⟨expr, ran, plain⟩ | ⟨cause, ran, plain⟩⟩ :=
      StatefulParse.whole_cases beyond source calculator.parser
    · rw [Calculator.step, Session.step, ran,
        show IntExpr.parse source calculator.session.scanner = _ from plain]
      exact ⟨rfl, rfl, named, rfl⟩
    · rw [Calculator.step, Session.step, ran,
        show IntExpr.parse source calculator.session.scanner = _ from plain]
      exact ⟨rfl, rfl, named, rfl⟩
  | look =>
    exact ⟨rfl, rfl, Session.keeps_reading _ kept.look rfl, Session.bindings_reading ..⟩
  | advance =>
    exact ⟨rfl, rfl, Session.keeps_reading _ kept.advance rfl, Session.bindings_reading ..⟩
  | drain =>
    exact ⟨rfl, rfl, Session.keeps_reading _ kept.drain rfl, Session.bindings_reading ..⟩
  | declare name value location =>
    refine ⟨rfl, rfl, ?_⟩
    rw [Session.step, Step.declared, Bindings.declare]
    cases value.integer? <;> exact ⟨rfl, rfl⟩
  | get name place =>
    refine ⟨rfl, rfl, ?_⟩
    rw [Session.step]
    cases calculator.session.bindings.get name place <;> exact ⟨rfl, rfl⟩
  | _ => exact ⟨rfl, rfl, rfl, rfl⟩

/-- After any steps the session is what it would be without the parser, the name of its texts is
what it was, and its table has been changed only by the declarations among them. -/
theorem after_eq (calculator : Calculator) (steps : List Step) :
    (calculator.after beyond steps).session = calculator.session.after steps ∧
      (calculator.session.after steps).scanner.filename = calculator.session.scanner.filename ∧
      (calculator.session.after steps).bindings =
        calculator.session.bindings.declareAll (steps.flatMap Step.declared) := by
  induction steps generalizing calculator with
  | nil => exact ⟨rfl, rfl, rfl⟩
  | cons step steps inductionHypothesis =>
    obtain ⟨_, session, filename, bindings⟩ := step_eq beyond calculator step
    obtain ⟨others, laterName, laterBindings⟩ :=
      inductionHypothesis (calculator.step beyond step).2
    rw [session] at others laterName laterBindings
    refine ⟨others, laterName.trans filename, laterBindings.trans ?_⟩
    rw [bindings, List.flatMap_cons, Bindings.declareAll_append]

/-! ### No trace -/

/-- With the same name for its texts and with tables that give the same values, two calculators
answer the same when they are asked for the value or the tree of a text. -/
theorem answers_eq {first second : Calculator}
    (filename : first.session.scanner.filename = second.session.scanner.filename)
    (same : first.session.bindings.SameValues second.session.bindings)
    (firstDistinct : first.session.bindings.Distinct)
    (secondDistinct : second.session.bindings.Distinct) (source : String) :
    (first.step beyond (.evaluate source)).1 = (second.step beyond (.evaluate source)).1 ∧
      ∀ key, (first.step beyond (.parse key source)).1 =
        (second.step beyond (.parse key source)).1 := by
  -- Parsing restarts the scanner, so that nothing of it is left but the name of the text.
  have restarts (scanner : Scanner) :
      IntExpr.parse source scanner = IntExpr.parse source (.start scanner.filename "") := rfl
  have parsed : IntExpr.parse source first.session.scanner =
      IntExpr.parse source second.session.scanner := by
    rw [restarts first.session.scanner, restarts second.session.scanner, filename]
  have value (expr : Expr) : Session.valueOf (some first.session.bindings) expr =
      Session.valueOf (some second.session.bindings) expr := by
    rw [Session.valueOf, Session.valueOf, evaluateTree, evaluateTree,
      same.evaluate_eq firstDistinct secondDistinct]
  rw [(step_eq beyond first _).1, (step_eq beyond second _).1]
  refine ⟨?_, fun key => ?_⟩
  · simp only [Session.step, parsed, value]
    cases IntExpr.parse source second.session.scanner <;> rfl
  · rw [(step_eq beyond first _).1, (step_eq beyond second _).1]
    simp only [Session.step, parsed]
    cases IntExpr.parse source second.session.scanner <;> rfl

/-- However a calculator has been used, and whatever has failed, it answers when it is asked for
the value or the tree of a text as a calculator does that has not been used and whose table gives
the same values to names, in whatever order they were declared. This does not depend on what the
parser would do if it called itself too often. No step but the declaration of an integer changes a
table. -/
theorem reuse_leaves_no_trace (filename : String) (initial declarations : List Symbol)
    (steps : List Step) :
    let used := (start filename (Bindings.empty.declareAll initial)).after beyond steps
    let fresh := start filename (Bindings.empty.declareAll declarations)
    (used.session.bindings.SameValues fresh.session.bindings → ∀ source,
      (used.step beyond (.evaluate source)).1 = (fresh.step beyond (.evaluate source)).1 ∧
      ∀ key, (used.step beyond (.parse key source)).1 =
        (fresh.step beyond (.parse key source)).1) ∧
    ∀ (calculator : Calculator) (step : Step),
      (∀ name number location, step ≠ .declare name (.integer number) location) →
      (calculator.step beyond step).2.session.bindings = calculator.session.bindings := by
  intro used fresh
  obtain ⟨session, name, bindings⟩ :=
    after_eq beyond (start filename (Bindings.empty.declareAll initial)) steps
  refine ⟨fun same source => answers_eq beyond ?_ same ?_ ?_ source,
    fun calculator step other => ?_⟩
  · rw [show used.session = _ from session]
    exact name
  · rw [show used.session = _ from session, bindings]
    exact Bindings.distinct_declareAll (Bindings.distinct_declareAll Bindings.distinct_empty _) _
  · exact Bindings.distinct_declareAll Bindings.distinct_empty _
  · obtain ⟨_, session, _, bindings⟩ := step_eq beyond calculator step
    rw [session, bindings]
    cases step with
    | declare name value location =>
      cases value with
      | integer number => exact absurd rfl (other name number location)
      | _ => rfl
    | _ => rfl

/-- After a text that has broken off three expressions deep, and with two names declared in the
other order, `aa` has no value in the same words. -/
theorem broken_off_text_leaves_no_trace :
    let beyond : Level → StatefulParse Expr := fun _ => Parser.fault (.tooDeep default)
    let steps : List Step := [.evaluate "(1+", .declare "aa" (.boolean true) none,
      .declare "ac" (.integer 2) none]
    let used := (start "notes" (Bindings.empty.declareAll [⟨"ab", 1, none⟩])).after beyond steps
    let fresh := start "notes" (Bindings.empty.declareAll [⟨"ac", 2, none⟩, ⟨"ab", 1, none⟩])
    used.depth = 3 ∧ used.session.bindings ≠ fresh.session.bindings ∧
      used.session.bindings.SameValues fresh.session.bindings ∧
      (used.step beyond (.evaluate "aa")).1 = (fresh.step beyond (.evaluate "aa")).1 := by
  intro beyond steps used fresh
  have usedTable : used.session.bindings = ⟨[⟨"ab", 1, none⟩, ⟨"ac", 2, none⟩]⟩ := by
    decide +kernel
  have freshTable : fresh.session.bindings = ⟨[⟨"ac", 2, none⟩, ⟨"ab", 1, none⟩]⟩ := by
    decide +kernel
  have same : used.session.bindings.SameValues fresh.session.bindings := by
    rw [usedTable, freshTable]
    intro name
    by_cases isFirst : "ab" = name
    · subst isFirst
      decide +kernel
    · by_cases isSecond : "ac" = name
      · subst isSecond
        decide +kernel
      · simp [Bindings.lookup, isFirst, isSecond]
  have traceless := reuse_leaves_no_trace beyond "notes" [⟨"ab", 1, none⟩]
    [⟨"ac", 2, none⟩, ⟨"ab", 1, none⟩] steps
  refine ⟨by decide +kernel, ?_, same, (traceless.1 same "aa").1⟩
  rw [usedTable, freshTable]
  decide +kernel

end Calculator

end IntExpr
