/-
This file gives places in a source text. Lines and columns are counted from one and offsets from
zero, all three in characters; a span reaches from the place of its first token to the place
where its last token starts.
-/

import IntExpr.Text.Escaped

namespace IntExpr

/-- A place in a named source text. -/
structure Location where
  filename : String
  line : Nat
  column : Nat
  offset : Nat
deriving DecidableEq, Inhabited

namespace Location

/-- The place as reports show it. -/
def text (location : Location) : String :=
  location.filename ++ ":" ++ Nat.repr location.line ++ ":" ++ Nat.repr location.column

/-- The place with all four of its parts, for a reader who debugs. -/
def detail (location : Location) : String :=
  "SourceLocation(" ++ Text.quoted location.filename ++ ", " ++ Nat.repr location.line ++ ", " ++
    Nat.repr location.column ++ ", " ++ Nat.repr location.offset ++ ")"

/-- The place named where none is known. -/
def unknown : Location := ⟨"<unknown>", 0, 0, 0⟩

end Location

/-- A stretch of source text, from the start of its first token to the start of its last. -/
structure Span where
  start : Location
  stop : Location
deriving DecidableEq, Inhabited

namespace Span

/-- The span of a single token. -/
def single (location : Location) : Span := ⟨location, location⟩

/-- The span as reports show it; the second file name is left out when it repeats the first. -/
def text (span : Span) : String :=
  if span.start.filename = span.stop.filename then
    span.start.text ++ "-" ++ Nat.repr span.stop.line ++ ":" ++ Nat.repr span.stop.column
  else span.start.text ++ "-" ++ span.stop.text

/-- The span from the start of one stretch to the end of a later one, if both are known. -/
def cover (first last : Option Span) : Option Span :=
  match first, last with
  | some first, some last => some ⟨first.start, last.stop⟩
  | _, _ => none

end Span

end IntExpr
