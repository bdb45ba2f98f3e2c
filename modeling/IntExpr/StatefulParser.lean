/-
This file gives the parser as an object that is used again and again. Besides the scanner it has
a depth, which is counted up where an expression begins and down where it ends, and the token that
was taken last, which is where the span of a node ends. A failure leaves both as they are at that
moment; only a new text sets them back. How deep the parser may call itself is decided by the
depth alone. The bound on its recursion is there so that it is defined at all: it can be seen from
outside what the parser does beyond the bound, and so whether it ever gets there.
-/

import IntExpr.Parser

namespace IntExpr

/-- What the parser keeps: the scanner, the token that was taken last, and how many expressions
have begun and not ended. -/
structure ParserState where
  scanner : Scanner
  previous : Option Token
  depth : Nat
deriving DecidableEq, Inhabited

/-- A step of the parser that keeps its state, also when it fails. -/
abbrev StatefulParse := EStateM ParseError ParserState

namespace StatefulParse

/-! ### Reading tokens -/

/-- A step that concerns only the scanner. -/
def ofParse {Result : Type} (step : Parse Result) : StatefulParse Result := fun state =>
  match step state.scanner with
  | .ok result scanner => .ok result { state with scanner }
  | .error cause scanner => .error cause { state with scanner }

/-- The next token. -/
def peek : StatefulParse Token := ofParse Parse.peek

/-- The next token, which is taken and remembered. -/
def take : StatefulParse Token := do
  let token ← peek
  ofParse (Parse.ofScan Scanner.advance)
  modify fun state => { state with previous := some token }
  return token

/-- The span from the start of an expression to the token that was taken last. -/
def spanFrom (first : Expr) : StatefulParse (Option Span) := fun state =>
  match first.span, state.previous with
  | some span, some token => .ok (some ⟨span.start, token.location⟩) state
  | _, _ => .ok none state

/-! ### Counting the depth -/

/-- One level deeper, which is a fault beyond the limit. -/
def enter : StatefulParse Unit := do
  modify fun state => { state with depth := state.depth + 1 }
  if nestingLimit < (← get).depth then Parser.fault (.tooDeep (← peek))

/-- Back to the level before. -/
def leave : StatefulParse Unit :=
  modify fun state => { state with depth := state.depth - 1 }

/-- Reading an expression one level deeper. -/
def deeper (step : StatefulParse Expr) : StatefulParse Expr := do
  enter
  let expr ← step
  leave
  return expr

/-! ### The parser -/

/-- The parser that keeps the depth and the token that was taken last. -/
def parser : Parser ParserState Level where
  peek := peek
  take := take
  unread state := state.scanner.unread
  span first _ := spanFrom first
  deeper := deeper
  loosest := .conditional
  branch := .atLeast .logical
  operation := Level.operation

/-- A whole text as an expression, from whatever state the parser is in. It may call itself one
time more in a row than expressions may nest; what it does beyond that is arbitrary. -/
def whole (beyond : Level → StatefulParse Expr) (source : String) : StatefulParse Expr := do
  modify fun state => ⟨state.scanner.restart source, none, 0⟩
  parser.whole beyond (nestingLimit + 1)

end StatefulParse

end IntExpr
