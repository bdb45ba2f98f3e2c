/-
This file gives a calculator: what a session shares together with the parser that all its steps
use. Only a step that parses a text moves the parser, and after one that has failed the parser
still has the depth and the token at which it gave up.
-/

import IntExpr.Session
import IntExpr.StatefulParser

namespace IntExpr

namespace Bindings

/-- The table in which some symbols have been declared, one after the other. -/
def declareAll (bindings : Bindings) (symbols : List Symbol) : Bindings :=
  symbols.foldl store bindings

end Bindings

/-- What the steps of a calculator share: a session, and what the parser keeps beside the
scanner. -/
structure Calculator where
  session : Session
  previous : Option Token
  depth : Nat
deriving DecidableEq, Inhabited

namespace Calculator

/-- A calculator that has not been used: no text, some bindings, no trees. -/
def start (filename : String) (bindings : Bindings) : Calculator :=
  ⟨⟨.start filename "", bindings, []⟩, none, 0⟩

/-- The state of the parser. -/
def parser (calculator : Calculator) : ParserState :=
  ⟨calculator.session.scanner, calculator.previous, calculator.depth⟩

/-- A calculator whose parser has been left in a state. -/
def withParser (calculator : Calculator) (state : ParserState) : Calculator :=
  ⟨{ calculator.session with scanner := state.scanner }, state.previous, state.depth⟩

/-- A calculator that keeps one more tree. -/
def keep (calculator : Calculator) (key : String) (expr : Expr) : Calculator :=
  { calculator with
    session := { calculator.session with trees := (key, expr) :: calculator.session.trees } }

/-- One step. -/
def step (beyond : Level → StatefulParse Expr) (calculator : Calculator) :
    Step → Except StepError Answer × Calculator
  | .evaluate source =>
    match StatefulParse.whole beyond source calculator.parser with
    | .ok expr state =>
      (Session.valueOf (some calculator.session.bindings) expr, calculator.withParser state)
    | .error cause state => (.error (.calculation (.parse cause)), calculator.withParser state)
  | .parse key source =>
    match StatefulParse.whole beyond source calculator.parser with
    | .ok expr state => (.ok (.tree expr), (calculator.withParser state).keep key expr)
    | .error cause state => (.error (.calculation (.parse cause)), calculator.withParser state)
  | other =>
    ((calculator.session.step other).1,
      { calculator with session := (calculator.session.step other).2 })

/-- The calculator after some steps, whatever they answered. -/
def after (beyond : Level → StatefulParse Expr) (calculator : Calculator) (steps : List Step) :
    Calculator :=
  steps.foldl (fun calculator step => (calculator.step beyond step).2) calculator

end Calculator

end IntExpr
