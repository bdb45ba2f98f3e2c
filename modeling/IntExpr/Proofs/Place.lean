/-
This file relates the place a cursor counts along the way to the text it has left behind. The
line is one more than the number of line feeds in that text, the column one more than the number
of characters behind the last of them, and the offset its length. A cursor that starts at the
beginning of a text and moves over a part of it counts exactly these.
-/

import IntExpr.Cursor

namespace IntExpr

/-! ### Places by the text in front of them -/

/-- The column behind a text: one more than the number of characters since its last line feed. -/
def columnBehind (before : List Char) : Nat :=
  (before.reverse.takeWhile (· ≠ '\n')).length + 1

/-- The place in a named text that some part of it leads up to. -/
def Location.behind (filename : String) (before : List Char) : Location :=
  ⟨filename, 1 + before.count '\n', columnBehind before, before.length⟩

@[simp] theorem columnBehind_concat_lineFeed (before : List Char) :
    columnBehind (before ++ ['\n']) = 1 := by
  simp [columnBehind]

theorem columnBehind_concat (before : List Char) (character : Char) (inLine : character ≠ '\n') :
    columnBehind (before ++ [character]) = columnBehind before + 1 := by
  simp [columnBehind, inLine]

namespace Cursor

/-- The cursor between two parts of a text. -/
def behind (before rest : List Char) : Cursor :=
  ⟨rest, 1 + before.count '\n', columnBehind before, before.length⟩

/-! ### A moving cursor stays where its text says -/

theorem step_behind (before rest : List Char) (character : Char) :
    (behind before (character :: rest)).step = behind (before ++ [character]) rest := by
  by_cases lineFeed : character = '\n'
  · subst lineFeed
    simp [step, behind, Nat.add_assoc]
  · simp [step, behind, columnBehind_concat before character lineFeed, lineFeed]

/-- Moving over some characters leads behind them. -/
theorem skip_behind (before passed rest : List Char) :
    (behind before (passed ++ rest)).skip passed.length = behind (before ++ passed) rest := by
  induction passed generalizing before with
  | nil => simp [skip]
  | cons character passed inductionHypothesis =>
    rw [List.length_cons, skip, List.cons_append, step_behind, inductionHypothesis,
      List.append_assoc, List.singleton_append]

end Cursor

end IntExpr
