/-
This file proves that the edit distance is what its name says: the least number of characters to
insert, delete or substitute, one after the other and anywhere in a text, that turns one text into
another. Between the table of distances and the edits stands a recursion that compares the first
characters of two texts. The cells of the table are what the recursion gives for beginnings of
the texts, read backwards; edits can be read off the recursion; and no edit changes what it gives
by more than one.
-/

import IntExpr.EditDistance
import Mathlib.Order.Bounds.Defs

namespace IntExpr.EditDistance

/-! ### Edits -/

/-- A text becomes another when one character is inserted, deleted or substituted. -/
inductive Edit : List Char → List Char → Prop
  | insert (before after : List Char) (letter : Char) :
    Edit (before ++ after) (before ++ letter :: after)
  | delete (before after : List Char) (letter : Char) :
    Edit (before ++ letter :: after) (before ++ after)
  | substitute (before after : List Char) (letter other : Char) :
    Edit (before ++ letter :: after) (before ++ other :: after)

/-- A text becomes another by so many edits, one after the other. -/
inductive Edits : Nat → List Char → List Char → Prop
  | none (text : List Char) : Edits 0 text text
  | more {count : Nat} {first middle last : List Char} (edit : Edit first middle)
      (others : Edits count middle last) : Edits (count + 1) first last

theorem Edits.eq_of_zero {first last : List Char} (edits : Edits 0 first last) : first = last := by
  cases edits
  rfl

theorem Edit.cons {first second : List Char} (edit : Edit first second) (letter : Char) :
    Edit (letter :: first) (letter :: second) := by
  cases edit with
  | insert before after inserted => exact .insert (letter :: before) after inserted
  | delete before after deleted => exact .delete (letter :: before) after deleted
  | substitute before after old new => exact .substitute (letter :: before) after old new

theorem Edit.reverse {first second : List Char} (edit : Edit first second) :
    Edit first.reverse second.reverse := by
  cases edit with
  | insert before after letter => simpa using Edit.insert after.reverse before.reverse letter
  | delete before after letter => simpa using Edit.delete after.reverse before.reverse letter
  | substitute before after letter other =>
    simpa using Edit.substitute after.reverse before.reverse letter other

theorem Edits.cons {count : Nat} {first second : List Char} (edits : Edits count first second)
    (letter : Char) : Edits count (letter :: first) (letter :: second) := by
  induction edits with
  | none text => exact .none (letter :: text)
  | more edit _ inductionHypothesis => exact .more (edit.cons letter) inductionHypothesis

theorem Edits.reverse {count : Nat} {first second : List Char} (edits : Edits count first second) :
    Edits count first.reverse second.reverse := by
  induction edits with
  | none text => exact .none text.reverse
  | more edit _ inductionHypothesis => exact .more edit.reverse inductionHypothesis

/-- Texts read backwards are as many edits apart. -/
theorem edits_reverse_iff (count : Nat) (first second : List Char) :
    Edits count first.reverse second.reverse ↔ Edits count first second :=
  ⟨fun edits => by simpa using edits.reverse, Edits.reverse⟩

/-! ### The cost by recursion over both texts -/

/-- The cost of turning a text into another from the front: the first character is deleted, or
that of the other text is inserted in front, or the one takes the place of the other, which costs
nothing if they are the same. -/
def cost : List Char → List Char → Nat
  | [], second => second.length
  | letter :: first, [] => (letter :: first).length
  | letter :: first, other :: second =>
    min (min (cost first (other :: second) + 1) (cost (letter :: first) second + 1))
      (cost first second + if letter = other then 0 else 1)
termination_by first second => first.length + second.length

@[simp] theorem cost_nil_left (second : List Char) : cost [] second = second.length := by
  rw [cost]

@[simp] theorem cost_nil_right (first : List Char) : cost first [] = first.length := by
  cases first <;> rw [cost]

@[simp] theorem cost_self (text : List Char) : cost text text = 0 := by
  induction text with
  | nil => simp
  | cons letter text inductionHypothesis => simp [cost, inductionHypothesis]

theorem cost_comm (first second : List Char) : cost first second = cost second first := by
  induction first, second using cost.induct with
  | case1 second => simp
  | case2 letter first => simp
  | case3 letter first other second deleted inserted substituted =>
    rw [cost, cost, deleted, inserted, substituted, Nat.min_comm (cost _ first + 1)]
    simp only [eq_comm]

section

variable (letter other : Char) (first second : List Char)

theorem cost_delete_le : cost (letter :: first) second ≤ cost first second + 1 := by
  cases second with
  | nil => simp
  | cons other second => rw [cost]; omega

theorem cost_insert_le : cost first (other :: second) ≤ cost first second + 1 := by
  rw [cost_comm first, cost_comm first]
  exact cost_delete_le other second first

theorem cost_substitute_le :
    cost (letter :: first) (other :: second) ≤ cost first second + 1 := by
  rw [cost]
  split <;> omega

end

/-- Where the cost of a cell comes from. -/
theorem cost_cons_cons_cases (letter other : Char) (first second : List Char) :
    cost (letter :: first) (other :: second) = cost first (other :: second) + 1 ∨
      cost (letter :: first) (other :: second) = cost (letter :: first) second + 1 ∨
      cost (letter :: first) (other :: second) = cost first second + 1 ∨
      letter = other ∧ cost (letter :: first) (other :: second) = cost first second := by
  rw [cost]
  by_cases same : letter = other
  · rw [if_pos same]
    simp only [same, true_and]
    omega
  · rw [if_neg same]
    omega

/-! ### Edits of that cost -/

theorem edits_nil_left (text : List Char) : Edits text.length [] text := by
  induction text with
  | nil => exact .none []
  | cons letter text inductionHypothesis =>
    exact .more (.insert [] [] letter) (inductionHypothesis.cons letter)

theorem edits_nil_right (text : List Char) : Edits text.length text [] := by
  induction text with
  | nil => exact .none []
  | cons letter text inductionHypothesis =>
    exact .more (.delete [] text letter) inductionHypothesis

/-- A text can be turned into another at the cost of the recursion. -/
theorem edits_cost (first second : List Char) : Edits (cost first second) first second := by
  induction first, second using cost.induct with
  | case1 second =>
    rw [cost_nil_left]
    exact edits_nil_left second
  | case2 letter first =>
    rw [cost_nil_right]
    exact edits_nil_right (letter :: first)
  | case3 letter first other second deleted inserted substituted =>
    rcases cost_cons_cons_cases letter other first second with same | same | same | ⟨rfl, same⟩ <;>
      rw [same]
    · exact .more (.delete [] first letter) deleted
    · exact .more (.insert [] (letter :: first) other) (inserted.cons other)
    · exact .more (.substitute [] first letter other) (substituted.cons other)
    · exact substituted.cons letter

/-! ### No fewer edits -/

/-- A character in front of two texts does not set them further apart from all others. -/
theorem cost_cons_le_of_forall {first second : List Char}
    (close : ∀ target, cost first target ≤ cost second target + 1) (letter : Char)
    (target : List Char) : cost (letter :: first) target ≤ cost (letter :: second) target + 1 := by
  induction target with
  | nil =>
    have start := close []
    simp only [cost_nil_right, List.length_cons] at start ⊢
    omega
  | cons other target inductionHypothesis =>
    have deleted := close (other :: target)
    have substituted := close target
    rw [cost, cost]
    omega

theorem cost_le_cost_cons (letter : Char) (text target : List Char) :
    cost text target ≤ cost (letter :: text) target + 1 := by
  induction target with
  | nil => simp only [cost_nil_right, List.length_cons]; omega
  | cons other target inductionHypothesis =>
    have inserted := cost_insert_le other text target
    rw [cost]
    omega

theorem cost_cons_le_cost_cons (letter other : Char) (text target : List Char) :
    cost (letter :: text) target ≤ cost (other :: text) target + 1 := by
  induction target with
  | nil => simp only [cost_nil_right, List.length_cons]; omega
  | cons next target inductionHypothesis =>
    have substituted := cost_substitute_le letter next text target
    rw [cost] at substituted ⊢
    rw [cost]
    omega

/-- An edit lowers the cost by one at most. -/
theorem Edit.cost_le {first second : List Char} (edit : Edit first second)
    (target : List Char) : cost first target ≤ cost second target + 1 := by
  -- What stands in front of the edited place is taken off character by character.
  have behind (before : List Char) {old new : List Char}
      (close : ∀ target, cost old target ≤ cost new target + 1) :
      ∀ target, cost (before ++ old) target ≤ cost (before ++ new) target + 1 := by
    induction before with
    | nil => exact close
    | cons letter before inductionHypothesis =>
      exact cost_cons_le_of_forall inductionHypothesis letter
  cases edit with
  | insert before after letter => exact behind before (cost_le_cost_cons letter after) target
  | delete before after letter => exact behind before (cost_delete_le letter after) target
  | substitute before after letter other =>
    exact behind before (cost_cons_le_cost_cons letter other after) target

theorem Edits.cost_le {count : Nat} {first second : List Char}
    (edits : Edits count first second) : cost first second ≤ count := by
  induction edits with
  | none text => exact Nat.le_of_eq (cost_self text)
  | more edit _ inductionHypothesis =>
    exact Nat.le_trans (edit.cost_le _) (Nat.succ_le_succ inductionHypothesis)

/-- The cost of the recursion is the least number of edits. -/
theorem isLeast_cost (first second : List Char) :
    IsLeast {count | Edits count first second} (cost first second) :=
  ⟨edits_cost first second, fun _ edits => edits.cost_le⟩

/-! ### The table -/

/-- The cells of a row from one of its columns on. What has been read of the text along the row is
behind the column, in backward order, and the rest of that text ahead of it. -/
def cells (down behind : List Char) : (ahead : List Char) → List Nat
  | [] => [cost down behind]
  | next :: ahead => cost down behind :: cells down (next :: behind) ahead

theorem cells_eq_cons (down behind ahead : List Char) :
    cells down behind ahead = cost down behind :: (cells down behind ahead).tail := by
  cases ahead <;> rfl

/-- The cells of a new row come from those of the row above. -/
theorem nextCells_cells (letter : Char) (down behind ahead : List Char) :
    nextCells letter ahead (cells down behind ahead) (cost (letter :: down) behind) =
      (cells (letter :: down) behind ahead).tail := by
  induction ahead generalizing behind with
  | nil => rfl
  | cons other ahead inductionHypothesis =>
    have cell : min (min (cost down (other :: behind) + 1) (cost (letter :: down) behind + 1))
        (cost down behind + if letter = other then 0 else 1) =
        cost (letter :: down) (other :: behind) := by rw [cost]
    rw [cells, cells_eq_cons down (other :: behind), nextCells, cell, ← cells_eq_cons,
      inductionHypothesis, cells, List.tail_cons, ← cells_eq_cons]

theorem nextRow_cells (letter : Char) (down along : List Char) :
    nextRow along (cells down [] along) letter = cells (letter :: down) [] along := by
  have first : (cells down [] along).headD 0 + 1 = cost (letter :: down) [] := by
    rw [cells_eq_cons, List.headD_cons, cost_nil_right, cost_nil_right, List.length_cons]
  rw [nextRow, first, nextCells_cells, ← cells_eq_cons]

/-- The row below some characters is that of what has been read of the text. -/
theorem foldl_nextRow (along text down : List Char) :
    text.foldl (nextRow along) (cells down [] along) = cells (text.reverse ++ down) [] along := by
  induction text generalizing down with
  | nil => rfl
  | cons letter text inductionHypothesis =>
    rw [List.foldl_cons, nextRow_cells, inductionHypothesis, List.reverse_cons, List.append_assoc,
      List.singleton_append]

/-- The first row counts the characters along it. -/
theorem cells_nil (behind ahead : List Char) :
    cells [] behind ahead = List.range' behind.length (ahead.length + 1) := by
  induction ahead generalizing behind with
  | nil => rw [cells, cost_nil_left]; rfl
  | cons next ahead inductionHypothesis =>
    rw [cells, cost_nil_left, inductionHypothesis]
    rfl

theorem getLastD_cells (down behind ahead : List Char) (default : Nat) :
    (cells down behind ahead).getLastD default = cost down (ahead.reverse ++ behind) := by
  induction ahead generalizing behind default with
  | nil => rfl
  | cons next ahead inductionHypothesis =>
    rw [cells, List.getLastD_cons, inductionHypothesis, List.reverse_cons, List.append_assoc,
      List.singleton_append]

/-- The last cell of the table, whichever of the two texts runs along the rows. -/
theorem lastCell_eq_cost (down along : List Char) :
    lastCell down along = cost down.reverse along.reverse := by
  have firstRow : List.range (along.length + 1) = cells [] [] along := by
    rw [cells_nil, List.range_eq_range', List.length_nil]
  rw [lastCell, firstRow, foldl_nextRow, getLastD_cells, List.append_nil, List.append_nil]

theorem lastCell_comm (first second : List Char) :
    lastCell first second = lastCell second first := by
  rw [lastCell_eq_cost, lastCell_eq_cost, cost_comm]

/-- The edit distance is the last cell with either text along the rows. -/
theorem distance_eq_lastCell (first second : List Char) :
    distance first second = lastCell first second := by
  rw [distance, lastCell_comm second first, ite_self]

/-- The edit distance is the least number of insertions, deletions and substitutions of a character
that turn one text into the other. Which of the texts is the longer one does not matter, nor which
of them runs along the rows of the table. -/
theorem distance_isLeast (first second : List Char) :
    IsLeast {count | Edits count first second} (distance first second) ∧
      distance first second = distance second first ∧
      lastCell second first = distance first second := by
  refine ⟨?_, ?_, ?_⟩
  · have least := isLeast_cost first.reverse second.reverse
    simp only [edits_reverse_iff] at least
    rwa [distance_eq_lastCell, lastCell_eq_cost]
  · rw [distance_eq_lastCell, distance_eq_lastCell, lastCell_comm]
  · rw [distance_eq_lastCell, lastCell_comm]

example : distance "kitten".toList "sitting".toList = 3 := by decide

end IntExpr.EditDistance
