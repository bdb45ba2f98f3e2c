/-
This file joins parsing and evaluation: from a text and a table of bindings to an integer. It is
given for evaluations of any depth and, beside that, for a stack that has room for only so many
evaluations at once.
-/

import IntExpr.Expr.Depth
import IntExpr.Report

namespace IntExpr

/-- Why a calculation has no result. -/
inductive Failure where
  | parse (cause : ParseError)
  | evaluation (cause : EvaluationError)
  /-- There was no room for all the evaluations that would have been under way at once. -/
  | exhausted
deriving DecidableEq, Inhabited

/-- The report of a failed calculation. -/
def Failure.report : Failure → Report
  | parse cause => cause.report
  | evaluation cause => cause.report
  | exhausted => .exhausted

/-- The value of a tree that stems from a text. -/
def evaluateTree (bindings : Option Bindings) (expr : Expr) : Except Failure Int :=
  match expr.evaluate bindings with
  | .ok value => .ok value
  | .error cause => .error (.evaluation cause)

/-- The value of a named text. -/
def calculate (filename source : String) (bindings : Option Bindings) : Except Failure Int :=
  match parseText filename source with
  | .ok expr => evaluateTree bindings expr
  | .error cause => .error (.parse cause)

/-- The name of a text that was given without one. -/
def inputName : String := "<input>"

/-- The value of a text under a list of bindings. -/
def calculateText (source : String) (symbols : List (String × Int)) : Except Failure Int :=
  calculate inputName source (some (Bindings.ofList symbols))

/-! ### Calculation on a stack -/

/-- The failure of a calculation whose evaluation was interrupted. -/
def Interruption.failure : Interruption → Failure
  | failed cause => .evaluation cause
  | tooDeep => .exhausted

/-- The value of a named text on a stack with room for so many evaluations. -/
def calculateWithin (room : Nat) (filename source : String) (bindings : Option Bindings) :
    Except Failure Int :=
  match parseText filename source with
  | .ok expr => (expr.evaluateWithin bindings room).mapError Interruption.failure
  | .error cause => .error (.parse cause)

/-- The value of a text under a list of bindings on a stack with room for so many evaluations. -/
def calculateTextWithin (room : Nat) (source : String) (symbols : List (String × Int)) :
    Except Failure Int :=
  calculateWithin room inputName source (some (Bindings.ofList symbols))

/-- How many evaluations there is room for on the stack of a program that does nothing but a
calculation: of the thousand calls that may be under way at once three stand before the first
evaluation, and each evaluation takes one for itself and one for the kind of its node. The few
calls that an operator or a lookup takes at the end of these are not counted. -/
def stackRoom : Nat := (1000 - 3) / 2

/-! ### Parsed and not parsed -/

section

variable {source : String} (symbols : List (String × Int))

/-- A text that is parsed comes to what its tree comes to. -/
theorem calculateText_of_ok {expr : Expr} (parsed : parseText inputName source = .ok expr) :
    calculateText source symbols =
      (expr.evaluate (some (Bindings.ofList symbols))).mapError .evaluation := by
  unfold calculateText calculate
  rw [parsed]
  show evaluateTree _ expr = _
  unfold evaluateTree
  cases expr.evaluate (some (Bindings.ofList symbols)) <;> rfl

theorem calculateText_of_error {cause : ParseError}
    (failed : parseText inputName source = .error cause) :
    calculateText source symbols = .error (.parse cause) := by
  unfold calculateText calculate
  rw [failed]

end

end IntExpr
