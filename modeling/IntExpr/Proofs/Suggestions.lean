/-
This file proves that what a table suggests for a name depends only on which names are bound in
it, and not on how they came to be. A table never binds a name twice, so two tables that bind the
same names hold them in two orders. The names within reach are sorted by their distance and, where
this is the same, by their code points, and no two names are alike in both; so they come out in
one order.
-/

import IntExpr.Bindings
import Mathlib.Data.List.Perm.Basic
import Mathlib.Data.String.Basic

namespace IntExpr

namespace Bindings

/-! ### Names are distinct -/

/-- The bound names in the order in which they were first declared. -/
def boundNames (bindings : Bindings) : List String := bindings.symbols.map Symbol.name

/-- No name is bound twice. -/
def Distinct (bindings : Bindings) : Prop := bindings.boundNames.Nodup

theorem distinct_empty : empty.Distinct := List.nodup_nil

/-- A symbol that is put into a list adds its name to the names if it is not among them. -/
theorem map_name_put (symbol : Symbol) (symbols : List Symbol) :
    (put symbol symbols).map Symbol.name =
      if symbol.name ∈ symbols.map Symbol.name then symbols.map Symbol.name
      else symbols.map Symbol.name ++ [symbol.name] := by
  induction symbols with
  | nil => simp [put]
  | cons other rest inductionHypothesis =>
    by_cases same : other.name = symbol.name
    · simp [put, same]
    · rw [put, if_neg same, List.map_cons, inductionHypothesis, List.map_cons]
      by_cases member : symbol.name ∈ rest.map Symbol.name
      · rw [if_pos member, if_pos (List.mem_cons_of_mem _ member)]
      · rw [if_neg member, if_neg (List.not_mem_cons_of_ne_of_not_mem (Ne.symm same) member),
          List.cons_append]

theorem distinct_store {bindings : Bindings} (distinct : bindings.Distinct) (symbol : Symbol) :
    (bindings.store symbol).Distinct := by
  unfold Distinct boundNames store
  rw [map_name_put]
  by_cases member : symbol.name ∈ bindings.symbols.map Symbol.name
  · rw [if_pos member]
    exact distinct
  · rw [if_neg member]
    refine List.nodup_append.2 ⟨distinct, List.pairwise_singleton _ _, ?_⟩
    intro name bound other isNew
    rw [List.mem_singleton.1 isNew]
    exact fun same => member (same ▸ bound)

/-- A name is bound exactly if looking it up shows a symbol. -/
theorem mem_boundNames_iff (bindings : Bindings) (name : String) :
    name ∈ bindings.boundNames ↔ (bindings.lookup name).isSome := by
  rw [← contains_eq_isSome_lookup, contains, List.any_eq_true, boundNames, List.mem_map]
  simp only [decide_eq_true_eq]

/-! ### The order of suggestions -/

theorem nearer_iff (first second : Nat × String) :
    nearer first second = true ↔
      first.1 < second.1 ∨ first.1 = second.1 ∧ first.2 ≤ second.2 := by
  simp [nearer]

theorem nearer_trans (first second third : Nat × String) (firstNearer : nearer first second = true)
    (secondNearer : nearer second third = true) : nearer first third = true := by
  rw [nearer_iff] at *
  rcases firstNearer with less | ⟨same, firstLe⟩
  · rcases secondNearer with alsoLess | ⟨same, _⟩
    · exact .inl (less.trans alsoLess)
    · exact .inl (same ▸ less)
  · rcases secondNearer with less | ⟨alsoSame, secondLe⟩
    · exact .inl (same ▸ less)
    · exact .inr ⟨same.trans alsoSame, firstLe.trans secondLe⟩

theorem nearer_total (first second : Nat × String) :
    (nearer first second || nearer second first) = true := by
  rw [Bool.or_eq_true, nearer_iff, nearer_iff]
  rcases Nat.lt_trichotomy first.1 second.1 with less | same | greater
  · exact .inl (.inl less)
  · exact (le_total first.2 second.2).imp (fun le => .inr ⟨same, le⟩) fun le => .inr ⟨same.symm, le⟩
  · exact .inr (.inl greater)

theorem nearer_antisymm {first second : Nat × String} (firstNearer : nearer first second = true)
    (secondNearer : nearer second first = true) : first = second := by
  rw [nearer_iff] at firstNearer secondNearer
  rcases firstNearer with less | ⟨same, firstLe⟩
  · rcases secondNearer with greater | ⟨same, _⟩ <;> omega
  · rcases secondNearer with greater | ⟨_, secondLe⟩
    · omega
    · exact Prod.ext same (firstLe.antisymm secondLe)

/-- Sorting by nearness leads to the same list from whatever order. -/
theorem mergeSort_nearer_eq {first second : List (Nat × String)} (perm : first.Perm second) :
    first.mergeSort nearer = second.mergeSort nearer := by
  have sorted (candidates : List (Nat × String)) :=
    List.pairwise_mergeSort nearer_trans nearer_total candidates
  refine List.Perm.eq_of_pairwise (fun _ _ _ _ => nearer_antisymm) (sorted first) (sorted second) ?_
  exact (List.mergeSort_perm first nearer).trans
    (perm.trans (List.mergeSort_perm second nearer).symm)

/-! ### The bound names decide -/

/-- Tables that bind the same names suggest the same. -/
theorem similar_eq {first second : Bindings} (firstDistinct : first.Distinct)
    (secondDistinct : second.Distinct)
    (names : ∀ name, name ∈ first.boundNames ↔ name ∈ second.boundNames) (name : String)
    (reach : Int) : first.similar name reach = second.similar name reach := by
  have perm : first.boundNames.Perm second.boundNames :=
    (List.perm_ext_iff_of_nodup firstDistinct secondDistinct).2 names
  have candidates (bindings : Bindings) :
      bindings.symbols.map (fun symbol => (nameDistance name symbol.name, symbol.name)) =
        bindings.boundNames.map fun bound => (nameDistance name bound, bound) := by
    rw [boundNames, List.map_map]
    rfl
  unfold similar
  rw [candidates, candidates]
  simp only [mergeSort_nearer_eq ((perm.map _).filter _)]

end Bindings

end IntExpr
