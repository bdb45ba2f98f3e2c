/-
This file runs the command line. The expressions are evaluated in order until one of them fails;
each result is written as it is found. A failed expression is reported and ends the run. Where a
conversion between integer and text is refused there is nothing to report, and the run is
abandoned with what has been written so far; an empty binding abandons it at its start. The log of
a failure also tells the calls that were active. These belong to the machine that runs the program,
so that a run is given them.
-/

import IntExpr.Calculation
import IntExpr.CommandLine.Settings
import IntExpr.Expr.Outline

namespace IntExpr.CommandLine

/-- How a run ends. -/
inductive Ending where
  /-- With an exit status. -/
  | exit (status : Nat)
  /-- By a refusal that is not reported as a failed expression. -/
  | abandoned (message : String)
deriving DecidableEq, Inhabited

/-- What a run leaves behind. -/
structure Outcome where
  stdout : String
  stderr : String
  ending : Ending
deriving DecidableEq, Inhabited

/-- What one expression writes; there is an ending if the run ends with it. -/
structure Part where
  stdout : String
  stderr : String
  ending : Option Ending
deriving DecidableEq, Inhabited

/-- The lines that tell which calls were active when an expression failed. -/
abbrev Traceback := Bindings → (filename source : String) → List String

/-- No calls are told. -/
def untraced : Traceback := fun _ _ _ => []

/-! ### What is written -/

/-- The result of an expression, as a line. -/
def resultLine (json : Bool) (source value : String) : String :=
  if json then
    "\x7b\"expression\": " ++ Text.jsonString source ++ ", \"value\": " ++ value ++ "\x7d\n"
  else value ++ "\n"

/-- The failure of an expression, as a line. -/
def failureLine (json : Bool) (source : String) (fault : Fault) (diagnostic : Diagnostic) :
    String :=
  if json then
    "\x7b\"expression\": " ++ Text.jsonString source ++
      ", \"error\": " ++ Text.jsonString diagnostic.message ++
      ", \"code\": " ++ Text.jsonString fault.code ++
      ", \"kind\": " ++ Text.jsonString fault.title ++ "\x7d\n"
  else ""

/-- A line of the log, if there is a log. -/
def logLine (verbose : Bool) (origin message : String) : String :=
  if verbose then "DEBUG exprcalc." ++ origin ++ ": " ++ message ++ "\n" else ""

/-- What is logged of the bindings. -/
def bindingsLog (verbose : Bool) (bindings : Bindings) : String :=
  String.join (bindings.symbols.map fun symbol =>
    logLine verbose "evaluator.symbol_table"
      ("declared " ++ symbol.name ++ " = " ++ Decimal.text symbol.value))

/-- What is logged before a text is parsed. -/
def parsingLog (verbose : Bool) (source : String) : String :=
  logLine verbose "parser.parser" ("parsing " ++ Text.quoted source)

/-- What is logged after a text was parsed. -/
def parsedLog (verbose : Bool) (source : String) (expr : Expr) : String :=
  logLine verbose "parser.parser" ("parsed " ++ Text.quoted source ++ " into a " ++ expr.kind)

/-- What is logged of the failure of an expression. -/
def failureLog (verbose : Bool) (source : String) (calls : List String) : String :=
  logLine verbose "cli"
    ("\n".intercalate (("evaluation of " ++ Text.quoted source ++ " failed") :: calls))

/-- The indentation of trees. -/
def treeIndent : String := "  "

/-! ### Expressions in order -/

/-- The expressions of a run: those that were given, or the one for when none was. -/
def Settings.sources (settings : Settings) : List String :=
  match settings.expressions with
  | none | some [] => [defaultExpression]
  | some sources => sources

/-- The name of an expression among several, counted from one. -/
def expressionName (count index : Nat) : String :=
  if count = 1 then "<expr>" else "<expr " ++ Nat.repr index ++ ">"

section

variable (traceback : Traceback) (settings : Settings) (bindings : Bindings)

/-- A part of a run that ends it for a reported reason. -/
def failed (filename source stdout stderr : String) : Report → Part
  | .diagnosed fault diagnostic =>
    ⟨stdout ++ failureLine settings.json source fault diagnostic,
      stderr ++ failureLog settings.verbose source (traceback bindings filename source) ++
        diagnostic.text,
      some (.exit 1)⟩
  | report => ⟨stdout, stderr, some (.abandoned report.text)⟩

/-- What evaluating a tree adds to a run. -/
def evaluatePart (filename source : String) (expr : Expr) (stdout stderr : String) : Part :=
  match evaluateTree (some bindings) expr with
  | .error cause =>
    failed traceback settings bindings filename source stdout stderr cause.report
  | .ok value =>
    match Decimal.write value with
    | .ok written => ⟨stdout ++ resultLine settings.json source written, stderr, none⟩
    | .error cause => ⟨stdout, stderr, some (.abandoned cause.message)⟩

/-- What one expression adds to a run. -/
def expressionPart (filename source : String) : Part :=
  let before := parsingLog settings.verbose source
  match parseText filename source with
  | .error cause => failed traceback settings bindings filename source "" before cause.report
  | .ok expr =>
    let log := before ++ parsedLog settings.verbose source expr
    if settings.tree then
      match expr.outline treeIndent with
      | .ok outline =>
        evaluatePart traceback settings bindings filename source expr (outline ++ "\n") log
      | .error cause => ⟨"", log, some (.abandoned cause.message)⟩
    else evaluatePart traceback settings bindings filename source expr "" log

/-- What the expressions from some index on leave behind. -/
def runFrom (count index : Nat) : List String → Outcome
  | [] => ⟨"", "", .exit 0⟩
  | source :: sources =>
    let part := expressionPart traceback settings bindings (expressionName count index) source
    match part.ending with
    | some ending => ⟨part.stdout, part.stderr, ending⟩
    | none =>
      let rest := runFrom count (index + 1) sources
      ⟨part.stdout ++ rest.stdout, part.stderr ++ rest.stderr, rest.ending⟩

/-- What a run under some bindings leaves behind. -/
def runUnder : Outcome :=
  let sources := settings.sources
  let outcome := runFrom traceback settings bindings sources.length 1 sources
  { outcome with stderr := bindingsLog settings.verbose bindings ++ outcome.stderr }

end

/-- What is said of the first binding that was left empty, counted from zero. -/
def emptyBindingMessage (index : Nat) : String :=
  "dictionary update sequence element #" ++ Nat.repr index ++ " has length 0; 2 is required"

/-- What a run with some settings leaves behind. An empty binding keeps the run from starting. -/
def runSettings (traceback : Traceback) (settings : Settings) : Outcome :=
  match settings.bindings.findIdx? Option.isNone with
  | some index => ⟨"", "", .abandoned (emptyBindingMessage index)⟩
  | none => runUnder traceback settings (.ofList (settings.bindings.filterMap id))

/-- What a call with some arguments leaves behind. -/
def run (traceback : Traceback) (arguments : List String) : Outcome :=
  match settings arguments with
  | .error .help => ⟨helpText, "", .exit 0⟩
  | .error .version => ⟨versionText, "", .exit 0⟩
  | .error (.fault cause) => ⟨"", usageError cause.message, .exit 2⟩
  | .ok settings => runSettings traceback settings

end IntExpr.CommandLine
