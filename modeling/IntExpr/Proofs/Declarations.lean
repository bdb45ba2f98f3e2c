/-
This file proves that a table is the map in which the last write to a name counts. A declaration
changes the answer for its own name and for no other, so that after any number of steps a name has
the symbol it was declared with last, and if it was not declared the one the table began with. All
that can be asked of the table is read off from this one map; a declaration of a value that is no
integer is no write and leaves it as it was.
-/

import IntExpr.Proofs.Reuse

namespace IntExpr

namespace Bindings

/-! ### The last write -/

/-- The last of some symbols that has a name. -/
def lastOf (symbols : List Symbol) (name : String) : Option Symbol :=
  (symbols.filter (·.name = name)).getLast?

@[simp] theorem lastOf_append (first second : List Symbol) (name : String) :
    lastOf (first ++ second) name = (lastOf second name).or (lastOf first name) := by
  rw [lastOf, List.filter_append, List.getLast?_append, lastOf, lastOf]

@[simp] theorem lastOf_singleton (symbol : Symbol) (name : String) :
    lastOf [symbol] name = if symbol.name = name then some symbol else none := by
  by_cases same : symbol.name = name
  · simp [lastOf, same]
  · simp [lastOf, same]

/-- Storing a symbol is a write to its own name and to no other. -/
theorem lookup_store (bindings : Bindings) (symbol : Symbol) (name : String) :
    (bindings.store symbol).lookup name = (lastOf [symbol] name).or (bindings.lookup name) := by
  by_cases same : symbol.name = name
  · subst same
    simp
  · simp [same, lookup_store_other bindings symbol name (Ne.symm same)]

/-- After some declarations a name has the symbol of the last of them that writes to it. -/
theorem lookup_declareAll (bindings : Bindings) (symbols : List Symbol) (name : String) :
    (bindings.declareAll symbols).lookup name =
      (lastOf symbols name).or (bindings.lookup name) := by
  induction symbols generalizing bindings with
  | nil => rfl
  | cons symbol symbols inductionHypothesis =>
    show ((bindings.store symbol).declareAll symbols).lookup name = _
    rw [inductionHypothesis, lookup_store, ← Option.or_assoc, ← lastOf_append,
      List.singleton_append]

@[simp] theorem lookup_empty (name : String) : empty.lookup name = none := rfl

/-- Pairs of a name and a value, as symbols that were declared nowhere. -/
def symbolsOf (pairs : List (String × Int)) : List Symbol :=
  pairs.map fun pair => ⟨pair.1, pair.2, none⟩

theorem ofList_eq_declareAll (pairs : List (String × Int)) :
    ofList pairs = empty.declareAll (symbolsOf pairs) := by
  rw [ofList, declareAll, symbolsOf, List.foldl_map]

/-! ### The names in order -/

/-- The names are in the order of their code points, and none is there twice. -/
theorem pairwise_names {bindings : Bindings} (distinct : bindings.Distinct) :
    bindings.names.Pairwise (· < ·) := by
  have sorted : bindings.names.Pairwise (· ≤ ·) := by
    unfold names
    exact (List.pairwise_mergeSort (by simpa using fun _ _ _ => le_trans) (by simpa using le_total)
      _).imp of_decide_eq_true
  have unique : bindings.names.Nodup := (List.mergeSort_perm _ _).nodup_iff.2 distinct
  exact sorted.imp₂ (fun _ _ => lt_of_le_of_ne) unique

theorem mem_names_iff (bindings : Bindings) (name : String) :
    name ∈ bindings.names ↔ (bindings.lookup name).isSome := by
  rw [← mem_boundNames_iff]
  exact List.mem_mergeSort

@[simp] theorem length_names (bindings : Bindings) : bindings.names.length = bindings.size := by
  rw [names, List.length_mergeSort, List.length_map, size]

end Bindings

namespace Session

/-- After any steps the table holds what it began with and what they have declared. -/
theorem bindings_after (session : Session) (steps : List Step) :
    (session.after steps).bindings =
      session.bindings.declareAll (steps.flatMap Step.declared) :=
  (Calculator.after_eq (fun _ => Parser.fault default) ⟨session, none, 0⟩ steps).2.2

/-! ### What can be asked of the table -/

/-- The answers of a session about its table are those of a map from names to symbols, and asking
changes nothing. -/
structure AnswersAs (session : Session) (bound : String → Option Symbol) : Prop where
  lookup : ∀ name, session.step (.lookup name) = (.ok (.symbol (bound name)), session)
  get_of_some : ∀ name place symbol, bound name = some symbol →
    session.step (.get name place) = (.ok (.symbol (some symbol)), session)
  get_of_none : ∀ name place, bound name = none → ∃ similar diagnostic,
    session.step (.get name place) =
      (.error (.calculation (.evaluation (.unbound ⟨name, place, similar⟩))), session) ∧
    (Unbound.mk name place similar).report = .diagnosed .unboundIdentifier diagnostic ∧
    diagnostic.code = some "E010" ∧ diagnostic.location = some (place.getD .unknown)
  contains : ∀ name,
    session.step (.contains name) = (.ok (.truth (bound name).isSome), session)
  /-- The names are those that are bound, in strictly increasing order, and are counted once. -/
  names : ∃ names, session.step .names = (.ok (.names names), session) ∧
    session.step .size = (.ok (.count names.length), session) ∧
    names.Pairwise (· < ·) ∧ ∀ name, name ∈ names ↔ (bound name).isSome

/-- A session answers as the map that looking up a name in its table is, if no name is bound
twice in it. -/
theorem answersAs_lookup {session : Session} (distinct : session.bindings.Distinct) :
    session.AnswersAs session.bindings.lookup where
  lookup _ := rfl
  get_of_some name place symbol found := by
    rw [step, Bindings.get, found]
  get_of_none name place missing := by
    refine ⟨session.bindings.similar name Bindings.suggestionReach, _, ?_, rfl, rfl, rfl⟩
    rw [step, Bindings.get, missing]
  contains name := by
    rw [step, Bindings.contains_eq_isSome_lookup]
  names := by
    refine ⟨session.bindings.names, rfl, ?_, Bindings.pairwise_names distinct,
      Bindings.mem_names_iff _⟩
    rw [Bindings.length_names, step]

/-- After any steps a session answers about its table as the map in which a name has the symbol
of the last write to it: the last declaration of that name that has succeeded, or else the value
that the table began with. A declaration of an integer succeeds; one of any other value fails and
leaves the session as it was. -/
theorem table_is_last_write_map (filename : String) (initial : List (String × Int))
    (steps : List Step) :
    let session := (start filename initial).after steps
    session.AnswersAs
      (Bindings.lastOf (Bindings.symbolsOf initial ++ steps.flatMap Step.declared)) ∧
    ∀ name value location,
      session.step (.declare name value location) =
        match value.integer? with
        | some number =>
          (.ok (.symbol (some ⟨name, number, location⟩)),
            { session with bindings := session.bindings.store ⟨name, number, location⟩ })
        | none => (.error (.foreignValue ⟨name, value⟩), session) := by
  intro session
  have table : session.bindings =
      Bindings.empty.declareAll (Bindings.symbolsOf initial ++ steps.flatMap Step.declared) := by
    rw [bindings_after, Bindings.declareAll_append, ← Bindings.ofList_eq_declareAll]
    rfl
  have map : session.bindings.lookup =
      Bindings.lastOf (Bindings.symbolsOf initial ++ steps.flatMap Step.declared) := by
    funext name
    rw [table, Bindings.lookup_declareAll, Bindings.lookup_empty, Option.or_none]
  have distinct : session.bindings.Distinct :=
    table ▸ Bindings.distinct_declareAll Bindings.distinct_empty _
  refine ⟨map ▸ answersAs_lookup distinct, fun name value location => ?_⟩
  rw [step, Bindings.declare]
  cases value.integer? <;> rfl

end Session

end IntExpr
