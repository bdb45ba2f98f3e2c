/-
This file proves that what a table suggests for a name are the best five of the bound names within
reach. How far two names are apart is the least number of edits between them in small letters;
names that are equally far apart are told apart by their code points, so that the bound names
within reach stand in one order and are all in it. The suggestions are the beginning of that order.
Nothing else about the table has a part in this, neither the values nor the order, the failures and
the repetitions of the declarations that it came from.
-/

import IntExpr.Proofs.Declarations
import IntExpr.Proofs.Edits
import Mathlib.Data.Set.Card
import Mathlib.Order.Lattice.Nat

namespace IntExpr

namespace Bindings

/-! ### Names by how far they are apart -/

/-- The least number of edits that turn a name into another, both in small letters. -/
noncomputable def editsBetween (first second : String) : Nat :=
  sInf {count | EditDistance.Edits count (Text.toSmall first).toList (Text.toSmall second).toList}

theorem editsBetween_eq (first second : String) :
    editsBetween first second = nameDistance first second := by
  let before := (Text.toSmall first).toList
  let after := (Text.toSmall second).toList
  calc sInf {count | EditDistance.Edits count before after}
      = sInf {count | EditDistance.Edits count before.reverse after.reverse} := by
        simp only [EditDistance.edits_reverse_iff]
    _ = EditDistance.cost before.reverse after.reverse :=
        (EditDistance.isLeast_cost _ _).csInf_eq
    _ = EditDistance.distance before after := by
        rw [EditDistance.distance_eq_lastCell, EditDistance.lastCell_eq_cost]

/-- Names are no edit apart exactly if they are the same in small letters. -/
theorem editsBetween_eq_zero_iff (first second : String) :
    editsBetween first second = 0 ↔ Text.toSmall first = Text.toSmall second := by
  obtain ⟨edits, least⟩ := (EditDistance.distance_isLeast (Text.toSmall first).toList
    (Text.toSmall second).toList).1
  rw [editsBetween_eq, nameDistance]
  constructor
  · intro zero
    rw [zero] at edits
    exact String.toList_inj.1 edits.eq_of_zero
  · intro same
    rw [same] at least ⊢
    exact Nat.le_zero.1 (least (.none _))

/-- ASCII names that differ in capitals only are no edit apart. -/
theorem editsBetween_of_capitals {first second : String}
    (firstAscii : ∀ character ∈ first.toList, character.toNat < 128)
    (secondAscii : ∀ character ∈ second.toList, character.toNat < 128)
    (same : first.toList.map Char.toLower = second.toList.map Char.toLower) :
    editsBetween first second = 0 := by
  rw [editsBetween_eq_zero_iff, ← String.toList_inj, Text.toSmall_of_ascii firstAscii,
    Text.toSmall_of_ascii secondAscii, same]

/-- Of two names the first is the better suggestion for a name: it is fewer edits away from it, or
as many and the first by its code points. -/
def Better (name first second : String) : Prop :=
  editsBetween name first < editsBetween name second ∨
    editsBetween name first = editsBetween name second ∧ first < second

theorem Better.ne {name first second : String} (better : Better name first second) :
    first ≠ second := by
  rintro rfl
  rcases better with less | ⟨_, less⟩
  · exact lt_irrefl _ less
  · exact lt_irrefl _ less

/-- The names that are bound in a table. -/
def bound (bindings : Bindings) : Set String := {name | (bindings.lookup name).isSome}

/-- Those of some names that are at most so many edits away from a name. -/
def within (names : Set String) (name : String) (reach : Int) : Set String :=
  {other ∈ names | (editsBetween name other : Int) ≤ reach}

/-- Names are listed as suggestions for a name: they are the best five of some names within reach,
or all of them if there are no more than five, and better ones come first. -/
structure BestFive (names : Set String) (name : String) (reach : Int) (listed : List String) :
    Prop where
  within : ∀ other ∈ listed, other ∈ within names name reach
  distinct : listed.Nodup
  increasing : listed.Pairwise (Better name)
  finite : (Bindings.within names name reach).Finite
  length_eq : listed.length = min 5 (Bindings.within names name reach).ncard
  best : ∀ omitted ∈ Bindings.within names name reach, omitted ∉ listed →
    ∀ other ∈ listed, Better name other omitted

/-! ### The order of all bound names within reach -/

section

variable (bindings : Bindings) (name : String) (reach : Int)

/-- The bound names within reach, each with its distance and the nearest first. -/
def rankedPairs : List (Nat × String) :=
  ((bindings.boundNames.map fun bound => (nameDistance name bound, bound)).filter
    fun candidate => (candidate.1 : Int) ≤ reach).mergeSort nearer

/-- The bound names within reach, the nearest first. -/
def ranked : List String := (bindings.rankedPairs name reach).map Prod.snd

theorem similar_eq_take : bindings.similar name reach = (bindings.ranked name reach).take 5 := by
  rw [ranked, ← List.map_take, rankedPairs, boundNames, List.map_map]
  rfl

theorem mem_rankedPairs_iff (pair : Nat × String) :
    pair ∈ bindings.rankedPairs name reach ↔
      pair.1 = editsBetween name pair.2 ∧ pair.2 ∈ within bindings.bound name reach := by
  rw [rankedPairs, List.mem_mergeSort, List.mem_filter, List.mem_map, decide_eq_true_eq]
  constructor
  · rintro ⟨⟨other, isBound, rfl⟩, near⟩
    rw [← editsBetween_eq] at near ⊢
    exact ⟨rfl, (bindings.mem_boundNames_iff other).1 isBound, near⟩
  · rintro ⟨distance, isBound, near⟩
    rw [← distance] at near
    refine ⟨⟨pair.2, (bindings.mem_boundNames_iff _).2 isBound, ?_⟩, near⟩
    rw [← editsBetween_eq, ← distance]

theorem mem_ranked_iff (other : String) :
    other ∈ bindings.ranked name reach ↔ other ∈ within bindings.bound name reach := by
  rw [ranked, List.mem_map]
  constructor
  · rintro ⟨pair, member, rfl⟩
    exact ((bindings.mem_rankedPairs_iff name reach pair).1 member).2
  · intro near
    exact ⟨(editsBetween name other, other),
      (bindings.mem_rankedPairs_iff name reach _).2 ⟨rfl, near⟩, rfl⟩

theorem within_bound_eq :
    within bindings.bound name reach = (bindings.ranked name reach).toFinset := by
  ext other
  rw [List.coe_toFinset]
  exact (bindings.mem_ranked_iff name reach other).symm

variable {bindings} (distinct : bindings.Distinct)

include distinct

theorem nodup_rankedPairs : (bindings.rankedPairs name reach).Nodup := by
  refine (List.mergeSort_perm _ _).nodup_iff.2 (List.Nodup.filter _ ?_)
  exact List.Nodup.map (fun _ _ same => congrArg Prod.snd same) distinct

/-- Each of the names is better than those behind it. -/
theorem pairwise_ranked : (bindings.ranked name reach).Pairwise (Better name) := by
  have sorted :
      (bindings.rankedPairs name reach).Pairwise fun first second => nearer first second :=
    List.pairwise_mergeSort nearer_trans nearer_total _
  rw [ranked, List.pairwise_map]
  refine (sorted.and (nodup_rankedPairs name reach distinct)).imp_of_mem ?_
  rintro first second firstMember secondMember ⟨isNearer, other⟩
  have firstDistance := ((bindings.mem_rankedPairs_iff name reach first).1 firstMember).1
  have secondDistance := ((bindings.mem_rankedPairs_iff name reach second).1 secondMember).1
  rw [Better, ← firstDistance, ← secondDistance]
  refine ((nearer_iff first second).1 isNearer).imp_right fun ⟨same, le⟩ => ⟨same, ?_⟩
  exact lt_of_le_of_ne le fun sameName => other (Prod.ext same sameName)

theorem nodup_ranked : (bindings.ranked name reach).Nodup :=
  (pairwise_ranked name reach distinct).imp Better.ne

/-- What a table suggests are the best five of its names within reach. -/
theorem bestFive_similar :
    BestFive bindings.bound name reach (bindings.similar name reach) := by
  have sorted := pairwise_ranked name reach distinct
  have all := within_bound_eq bindings name reach
  rw [similar_eq_take]
  refine ⟨fun other member => ?_, ?_, sorted.take, ?_, ?_, ?_⟩
  · exact (bindings.mem_ranked_iff name reach other).1 (List.mem_of_mem_take member)
  · exact (nodup_ranked name reach distinct).take
  · rw [all]
    exact Finset.finite_toSet _
  · rw [all, Set.ncard_coe_finset, List.toFinset_card_of_nodup (nodup_ranked name reach distinct),
      List.length_take]
  · intro omitted near isOmitted other member
    -- What is left out stands behind the first five.
    rw [← List.take_append_drop 5 (bindings.ranked name reach), List.pairwise_append] at sorted
    refine sorted.2.2 other member omitted ?_
    have ranked := (bindings.mem_ranked_iff name reach omitted).2 near
    rw [← List.take_append_drop 5 (bindings.ranked name reach), List.mem_append] at ranked
    exact ranked.resolve_left isOmitted

end

theorem get_of_unbound {bindings : Bindings} {name : String} (unbound : name ∉ bindings.bound)
    (place : Option Location) :
    bindings.get name place = .error ⟨name, place, bindings.similar name suggestionReach⟩ := by
  have missing : bindings.lookup name = none := Option.not_isSome_iff_eq_none.1 unbound
  rw [get, missing]

/-- Tables that bind the same names suggest the same. -/
theorem similar_eq_of_bound {first second : Bindings} (firstDistinct : first.Distinct)
    (secondDistinct : second.Distinct) (same : first.bound = second.bound) (name : String)
    (reach : Int) : first.similar name reach = second.similar name reach := by
  refine similar_eq firstDistinct secondDistinct (fun other => ?_) name reach
  rw [mem_boundNames_iff, mem_boundNames_iff]
  exact Set.ext_iff.1 same other

end Bindings

namespace Session

/-- No name is bound twice in a session, whatever its steps were. -/
theorem distinct_after (filename : String) (initial : List (String × Int)) (steps : List Step) :
    ((start filename initial).after steps).bindings.Distinct := by
  have first : (start filename initial).bindings =
      Bindings.empty.declareAll (Bindings.symbolsOf initial) :=
    Bindings.ofList_eq_declareAll initial
  rw [bindings_after, first]
  exact Bindings.distinct_declareAll (Bindings.distinct_declareAll Bindings.distinct_empty _) _

/-- After any steps, whatever they have declared or failed to declare, a session suggests for a
name the best five of the bound names within reach. Two sessions in which the same names are bound
suggest the same, whatever the values are and in whatever order the names were declared; so they
also report the same when they are asked for a name that is not bound. -/
theorem suggestions_are_best_five (filename : String) (initial : List (String × Int))
    (steps : List Step) :
    let session := (start filename initial).after steps
    (∀ name reach, ∃ listed,
      session.step (.similar name reach) = (.ok (.names listed), session) ∧
        Bindings.BestFive session.bindings.bound name reach listed) ∧
    ∀ otherFilename otherInitial otherSteps,
      let other := (start otherFilename otherInitial).after otherSteps
      session.bindings.bound = other.bindings.bound →
        (∀ name reach,
          (session.step (.similar name reach)).1 = (other.step (.similar name reach)).1) ∧
        ∀ name place, name ∉ session.bindings.bound → ∃ listed diagnostic,
          session.step (.get name place) =
            (.error (.calculation (.evaluation (.unbound ⟨name, place, listed⟩))), session) ∧
          other.step (.get name place) =
            (.error (.calculation (.evaluation (.unbound ⟨name, place, listed⟩))), other) ∧
          (Unbound.mk name place listed).report = .diagnosed .unboundIdentifier diagnostic ∧
          diagnostic.code = some "E010" := by
  intro session
  have distinct : session.bindings.Distinct := distinct_after filename initial steps
  refine ⟨fun name reach => ⟨_, rfl, Bindings.bestFive_similar name reach distinct⟩, ?_⟩
  intro otherFilename otherInitial otherSteps other same
  have similar := Bindings.similar_eq_of_bound distinct
    (distinct_after otherFilename otherInitial otherSteps) same
  refine ⟨fun name reach => ?_, fun name place unbound => ?_⟩
  · rw [step, step, similar]
  · refine ⟨session.bindings.similar name Bindings.suggestionReach, _, ?_, ?_, rfl, rfl⟩
    · rw [step, Bindings.get_of_unbound unbound]
    · rw [step, Bindings.get_of_unbound (same ▸ unbound), similar]

/-- Six names declared in the other order, one of them twice and with a failure in between, have
the same suggestions for `AA`, and looking up `AA` fails in the same words. In small letters five of
the names are one edit away, whatever their capitals, and `B` is two edits away. -/
theorem shuffled_declarations_suggest_alike :
    let session := (start "notes" [("B", 1), ("Ab", 2), ("aC", 3), ("AD", 4), ("ae", 5),
      ("aF", 6)]).after []
    let other := (start "sheet" [("aF", 0)]).after [.declare "ae" (.integer 8) none,
      .declare "AD" (.integer 7) none, .declare "aa" (.boolean true) none,
      .declare "aF" (.integer 6) none, .declare "aC" (.integer 5) none,
      .declare "Ab" (.integer 4) none, .declare "B" (.integer 3) none]
    session.bindings ≠ other.bindings ∧ session.bindings.bound = other.bindings.bound ∧
      "AA" ∉ session.bindings.bound ∧
      session.step (.similar "AA" 2) = (.ok (.names ["AD", "Ab", "aC", "aF", "ae"]), session) ∧
      (session.step (.similar "AA" 2)).1 = (other.step (.similar "AA" 2)).1 ∧
      ∃ listed diagnostic,
        session.step (.get "AA" none) =
          (.error (.calculation (.evaluation (.unbound ⟨"AA", none, listed⟩))), session) ∧
        other.step (.get "AA" none) =
          (.error (.calculation (.evaluation (.unbound ⟨"AA", none, listed⟩))), other) ∧
        (Unbound.mk "AA" none listed).report = .diagnosed .unboundIdentifier diagnostic ∧
        diagnostic.code = some "E010" := by
  intro session other
  have names : session.bindings.boundNames.Perm other.bindings.boundNames := by decide +kernel
  have same : session.bindings.bound = other.bindings.bound := by
    ext name
    exact ((session.bindings.mem_boundNames_iff name).symm.trans names.mem_iff).trans
      (other.bindings.mem_boundNames_iff name)
  have unbound : "AA" ∉ session.bindings.bound := by
    show ¬ (session.bindings.lookup "AA").isSome = true
    decide +kernel
  -- Sorting does not evaluate, but the pairs that it leads to are known.
  have ranked : session.bindings.rankedPairs "AA" 2 =
      [(1, "AD"), (1, "Ab"), (1, "aC"), (1, "aF"), (1, "ae"), (2, "B")] := by
    refine (Bindings.mergeSort_nearer_eq ?_).trans (List.mergeSort_of_pairwise ?_)
    · decide +kernel
    · decide
  have listed : session.step (.similar "AA" 2) =
      (.ok (.names ["AD", "Ab", "aC", "aF", "ae"]), session) := by
    rw [step, Bindings.similar_eq_take, Bindings.ranked, ranked]
    rfl
  have alike := (suggestions_are_best_five "notes" _ []).2 "sheet" _ _ same
  exact ⟨by decide +kernel, same, unbound, listed, alike.1 "AA" 2, alike.2 "AA" none unbound⟩

end Session

end IntExpr
