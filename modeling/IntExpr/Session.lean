/-
This file gives a session: one scanner, one table of bindings and the trees that were kept under
a key, shared by any number of steps. A step that fails leaves the session in use; what a step
has read from the scanner stays read, and the bindings change only by a declaration that
succeeds.
-/

import IntExpr.Calculation

namespace IntExpr

/-- What can be asked of a session. -/
inductive Step where
  /-- Bind a name to a value, which has to be an integer. -/
  | declare (name : String) (value : Foreign) (location : Option Location)
  /-- The symbol of a name, if it is bound. -/
  | lookup (name : String)
  /-- The symbol of a name that has to be bound. -/
  | get (name : String) (place : Option Location)
  /-- The bound names in order. -/
  | names
  /-- The number of bound names. -/
  | size
  /-- Whether a name is bound. -/
  | contains (name : String)
  /-- The table in short. -/
  | table
  /-- Names that are spelled like a name. -/
  | similar (name : String) (reach : Int)
  /-- The value of a text. -/
  | evaluate (source : String)
  /-- The tree of a text, to be kept under a key. -/
  | parse (key source : String)
  /-- The value of a kept tree. -/
  | run (key : String)
  /-- The value of a kept tree without the table. -/
  | runBare (key : String)
  /-- Whether two kept trees are alike. -/
  | alike (first second : String)
  /-- Start to read a text. -/
  | restart (source : String)
  /-- The next token. -/
  | look
  /-- Past the next token. -/
  | advance
  /-- All tokens that are left. -/
  | drain
deriving DecidableEq, Inhabited

/-- What a step answers. -/
inductive Answer where
  | done
  | symbol (symbol : Option Symbol)
  | names (names : List String)
  | count (count : Nat)
  | truth (truth : Bool)
  | text (text : String)
  | number (value : Int)
  | tree (expr : Expr)
  | token (token : Token)
  | tokens (tokens : List Token)
deriving DecidableEq, Inhabited

/-- Why a step has no answer. -/
inductive StepError where
  | calculation (cause : Failure)
  | foreignValue (cause : ForeignValue)
  /-- No tree is kept under a key. -/
  | noTree (key : String)
deriving DecidableEq, Inhabited

/-- What the steps of a session share. -/
structure Session where
  scanner : Scanner
  bindings : Bindings
  trees : List (String × Expr)
deriving DecidableEq, Inhabited

namespace Session

/-- A session at its start: no text, some bindings, no trees. -/
def start (filename : String) (symbols : List (String × Int)) : Session :=
  ⟨.start filename "", .ofList symbols, []⟩

/-- A reading step in a session. -/
def reading {Result : Type} (session : Session) (step : Scan Result) (answer : Result → Answer) :
    Except StepError Answer × Session :=
  match step session.scanner with
  | .ok result scanner => (.ok (answer result), { session with scanner })
  | .error cause scanner =>
    (.error (.calculation (.parse (.scan cause))), { session with scanner })

/-- The tree kept under a key. -/
def tree (session : Session) (key : String) : Except StepError Expr :=
  match session.trees.lookup key with
  | some expr => .ok expr
  | none => .error (.noTree key)

/-- The value of a tree, as an answer. -/
def valueOf (bindings : Option Bindings) (expr : Expr) : Except StepError Answer :=
  match evaluateTree bindings expr with
  | .ok value => .ok (.number value)
  | .error cause => .error (.calculation cause)

/-- One step. -/
def step (session : Session) : Step → Except StepError Answer × Session
  | .declare name value location =>
    match session.bindings.declare name value location with
    | .ok (symbol, bindings) => (.ok (.symbol (some symbol)), { session with bindings })
    | .error cause => (.error (.foreignValue cause), session)
  | .lookup name => (.ok (.symbol (session.bindings.lookup name)), session)
  | .get name place =>
    match session.bindings.get name place with
    | .ok symbol => (.ok (.symbol (some symbol)), session)
    | .error failure => (.error (.calculation (.evaluation (.unbound failure))), session)
  | .names => (.ok (.names session.bindings.names), session)
  | .size => (.ok (.count session.bindings.size), session)
  | .contains name => (.ok (.truth (session.bindings.contains name)), session)
  | .table => (.ok (.text session.bindings.text), session)
  | .similar name reach => (.ok (.names (session.bindings.similar name reach)), session)
  | .evaluate source =>
    match IntExpr.parse source session.scanner with
    | .ok expr scanner => (valueOf (some session.bindings) expr, { session with scanner })
    | .error cause scanner => (.error (.calculation (.parse cause)), { session with scanner })
  | .parse key source =>
    match IntExpr.parse source session.scanner with
    | .ok expr scanner =>
      (.ok (.tree expr), { session with scanner, trees := (key, expr) :: session.trees })
    | .error cause scanner => (.error (.calculation (.parse cause)), { session with scanner })
  | .run key => (session.tree key >>= valueOf (some session.bindings), session)
  | .runBare key => (session.tree key >>= valueOf none, session)
  | .alike first second =>
    (do
      let left ← session.tree first
      let right ← session.tree second
      return .truth (decide (left.Alike right)), session)
  | .restart source => (.ok .done, { session with scanner := session.scanner.restart source })
  | .look => session.reading Scanner.look .token
  | .advance => session.reading Scanner.advance fun _ => .done
  | .drain => session.reading Scanner.drain .tokens

/-- The session after some steps, whatever they answered. -/
def after (session : Session) (steps : List Step) : Session :=
  steps.foldl (fun session step => (session.step step).2) session

/-- The answers to some steps, each with the session behind it. -/
def answers (session : Session) : List Step → List (Except StepError Answer × Session)
  | [] => []
  | step :: steps => session.step step :: (session.step step).2.answers steps

end Session

end IntExpr
