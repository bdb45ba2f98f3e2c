/-
This file reads a text token by token through a window of one token. `look` shows the next token
and scans only when the window is empty, `advance` empties the window, and `drain` reads to the
end. The end of the input stays in the window. A failed scan leaves the window empty, so the
next look scans from wherever the failure left the cursor.
-/

import IntExpr.Cursor

namespace IntExpr

/-- A text that is being read: its name, where reading has got to, and the token in the window,
if one is held there. The cursor is behind the held token. -/
structure Scanner where
  filename : String
  source : List Char
  cursor : Cursor
  held : Option Token
deriving DecidableEq, Inhabited

/-- A step that reads; what it has read stays read when it fails. -/
abbrev Scan := EStateM ScanError Scanner

namespace Scanner

/-- The scanner at the start of a text. -/
def start (filename : String) (source : String) : Scanner :=
  ⟨filename, source.toList, Cursor.start source.toList, none⟩

/-- The scanner at the start of another text under the same name. -/
def restart (scanner : Scanner) (source : String) : Scanner :=
  start scanner.filename source

/-- The next token, which stays next. -/
def look : Scan Token := fun scanner =>
  match scanner.held with
  | some token => .ok token scanner
  | none =>
    match scanner.cursor.scan scanner.filename with
    | (.ok token, cursor) => .ok token { scanner with cursor, held := some token }
    | (.error cause, cursor) => .error cause { scanner with cursor }

/-- Past the next token, except at the end of the input. -/
def advance : Scan Unit := fun scanner =>
  match look scanner with
  | .ok token scanner =>
    if token.type = .endOfInput then .ok () scanner else .ok () { scanner with held := none }
  | .error cause scanner => .error cause scanner

/-- Looking twice is looking once. -/
theorem look_of_look {before after : Scanner} {token : Token}
    (looked : look before = .ok token after) : look after = .ok token after := by
  unfold look at looked
  split at looked
  · rename_i held
    cases looked
    simp only [look, held]
  · split at looked
    · cases looked
      rfl
    · cases looked

/-- A bound on how many tokens are left: no two of them share a character. -/
def unread (scanner : Scanner) : Nat :=
  scanner.cursor.rest.length + if scanner.held.isSome then 1 else 0

/-- Taking a token out of the window leaves less to read. -/
theorem unread_lt_of_look {before after : Scanner} {token : Token}
    (looked : look before = .ok token after) (more : token.type ≠ .endOfInput) :
    ({ after with held := none } : Scanner).unread < before.unread := by
  unfold look at looked
  split at looked
  · rename_i held
    cases looked
    simp [unread, held]
  · rename_i held
    split at looked
    · rename_i scanned
      cases looked
      simpa [unread, held] using Cursor.scan_shorter scanned more
    · cases looked

/-- All tokens up to and including the end of the input. -/
def drain (scanner : Scanner) : EStateM.Result ScanError Scanner (List Token) :=
  match _ : look scanner with
  | .error cause scanner => .error cause scanner
  | .ok token behind =>
    if _ : token.type = .endOfInput then .ok [token] behind
    else
      match drain { behind with held := none } with
      | .ok tokens scanner => .ok (token :: tokens) scanner
      | .error cause scanner => .error cause scanner
termination_by scanner.unread
decreasing_by exact unread_lt_of_look ‹_› ‹_›

end Scanner

/-- The tokens of a text, the end of the input included. -/
def tokenize (filename source : String) : Except ScanError (List Token) :=
  match Scanner.drain (Scanner.start filename source) with
  | .ok tokens _ => .ok tokens
  | .error cause _ => .error cause

end IntExpr
