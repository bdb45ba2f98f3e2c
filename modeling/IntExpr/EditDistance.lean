/-
This file computes the edit distance of two texts, the least number of characters to insert,
delete or substitute to turn one into the other. It goes through the rows of the table of
distances between beginnings of the two texts and keeps one row at a time; the shorter text runs
along the row.
-/

namespace IntExpr.EditDistance

/-- The cells that follow a cell of a new row. The new row belongs to a beginning that ends in
`letter`; `others` is the rest of the text along the row, `above` the part of the row above that
starts over the last finished cell, and `left` is that cell. -/
def nextCells (letter : Char) : (others : List Char) → (above : List Nat) → (left : Nat) → List Nat
  | other :: others, diagonal :: up :: above, left =>
    let cell := min (min (up + 1) (left + 1)) (diagonal + if letter = other then 0 else 1)
    cell :: nextCells letter others (up :: above) cell
  | _, _, _ => []

/-- The row below a row, for one more character of the longer text. -/
def nextRow (along : List Char) (row : List Nat) (letter : Char) : List Nat :=
  let first := row.headD 0 + 1
  first :: nextCells letter along row first

/-- The last cell of the last row. -/
def lastCell (down along : List Char) : Nat :=
  (down.foldl (nextRow along) (List.range (along.length + 1))).getLastD 0

/-- The edit distance. -/
def distance (first second : List Char) : Nat :=
  if first.length < second.length then lastCell second first else lastCell first second

end IntExpr.EditDistance
