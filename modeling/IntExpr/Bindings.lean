/-
This file gives the table of named integers that expressions are evaluated against. A name has
one value, the last one declared; the table remembers the order in which names were first
declared. For a name that has no value the table suggests names that are spelled alike.
-/

import IntExpr.EditDistance
import IntExpr.Expr
import IntExpr.Text.LetterCase

namespace IntExpr

/-- A named integer, with the place of its declaration if there is one. -/
structure Symbol where
  name : String
  value : Int
  location : Option Location
deriving DecidableEq, Inhabited

/-- A symbol as an equation, unless its value is too long to write. -/
def Symbol.text (symbol : Symbol) : Except DigitLimitError String :=
  (Decimal.write symbol.value).map (symbol.name ++ " = " ++ ·)

/-- Symbols of different names, in the order in which the names were first declared. -/
structure Bindings where
  symbols : List Symbol
deriving DecidableEq, Inhabited

/-- A name that was asked for has no value. -/
structure Unbound where
  name : String
  place : Option Location
  /-- Bound names that are spelled alike, nearest first. -/
  similar : List String
deriving DecidableEq, Inhabited

/-- A value was declared that is no integer. -/
structure ForeignValue where
  name : String
  value : Foreign
deriving DecidableEq, Inhabited

/-- What is said of a value that is no integer. -/
def ForeignValue.message (failure : ForeignValue) : String :=
  "symbol '" ++ failure.name ++ "' must be bound to an int, got " ++ failure.value.type

namespace Bindings

/-- No bindings. -/
def empty : Bindings := ⟨[]⟩

/-- A symbol in place of the one of its name, or at the end if there is none. -/
def put (symbol : Symbol) : List Symbol → List Symbol
  | [] => [symbol]
  | other :: rest => if other.name = symbol.name then symbol :: rest else other :: put symbol rest

/-- The bindings with a symbol in place of any of its name. -/
def store (bindings : Bindings) (symbol : Symbol) : Bindings :=
  ⟨put symbol bindings.symbols⟩

/-- Give a name a value, in place of any it had. The value has to be an integer, which is found out
before anything is stored. -/
def declare (bindings : Bindings) (name : String) (value : Foreign)
    (location : Option Location) : Except ForeignValue (Symbol × Bindings) :=
  match value.integer? with
  | none => .error ⟨name, value⟩
  | some number => .ok (⟨name, number, location⟩, bindings.store ⟨name, number, location⟩)

/-- The symbol of a name. -/
def lookup (bindings : Bindings) (name : String) : Option Symbol :=
  bindings.symbols.find? (·.name = name)

/-- Whether a name is bound. -/
def contains (bindings : Bindings) (name : String) : Bool :=
  bindings.symbols.any (·.name = name)

/-- The number of bound names. -/
def size (bindings : Bindings) : Nat := bindings.symbols.length

/-- The bound names in the order of their code points. -/
def names (bindings : Bindings) : List String :=
  (bindings.symbols.map Symbol.name).mergeSort fun first second => decide (first ≤ second)

/-- The bindings of a list of pairs, later ones replacing earlier ones of the same name. -/
def ofList (pairs : List (String × Int)) : Bindings :=
  pairs.foldl (fun bindings pair => bindings.store ⟨pair.1, pair.2, none⟩) empty

/-- A table in short. -/
def text (bindings : Bindings) : String :=
  "SymbolTable(" ++ Nat.repr bindings.size ++ " symbols)"

/-! ### What storing changes -/

@[simp] theorem find_put_self (symbol : Symbol) (symbols : List Symbol) :
    (put symbol symbols).find? (·.name = symbol.name) = some symbol := by
  induction symbols with
  | nil => simp [put]
  | cons other rest inductionHypothesis =>
    by_cases same : other.name = symbol.name
    · simp [put, same]
    · simp [put, same, inductionHypothesis]

theorem find_put_other (symbol : Symbol) (symbols : List Symbol) (name : String)
    (other : name ≠ symbol.name) :
    (put symbol symbols).find? (·.name = name) = symbols.find? (·.name = name) := by
  induction symbols with
  | nil => simp [put, Ne.symm other]
  | cons first rest inductionHypothesis =>
    by_cases same : first.name = symbol.name
    · simp [put, same, Ne.symm other]
    · rw [put, if_neg same, List.find?_cons, List.find?_cons, inductionHypothesis]

/-- The name of a stored symbol has this symbol. -/
@[simp] theorem lookup_store_self (bindings : Bindings) (symbol : Symbol) :
    (bindings.store symbol).lookup symbol.name = some symbol :=
  find_put_self symbol bindings.symbols

/-- Storing a symbol leaves every other name as it was. -/
theorem lookup_store_other (bindings : Bindings) (symbol : Symbol) (name : String)
    (other : name ≠ symbol.name) :
    (bindings.store symbol).lookup name = bindings.lookup name :=
  find_put_other symbol bindings.symbols name other

/-- A name is contained exactly if it has a symbol. -/
theorem contains_eq_isSome_lookup (bindings : Bindings) (name : String) :
    bindings.contains name = (bindings.lookup name).isSome := by
  rw [contains, lookup, List.isSome_find?]

/-! ### Names that are spelled alike -/

/-- The edit distance of two names in small letters. -/
def nameDistance (first second : String) : Nat :=
  EditDistance.distance (Text.toSmall first).toList (Text.toSmall second).toList

/-- Nearer names come first, and of equally near ones the one that is first by code points. -/
def nearer (first second : Nat × String) : Bool :=
  first.1 < second.1 || first.1 = second.1 && decide (first.2 ≤ second.2)

/-- The five bound names nearest to a name among those within a distance of it. -/
def similar (bindings : Bindings) (name : String) (reach : Int) : List String :=
  let candidates := bindings.symbols.map fun symbol => (nameDistance name symbol.name, symbol.name)
  let near := candidates.filter fun candidate => (candidate.1 : Int) ≤ reach
  ((near.mergeSort nearer).take 5).map Prod.snd

/-- The distance up to which a name is suggested for one that is not bound. -/
def suggestionReach : Int := 2

/-- The symbol of a name that is to be bound. -/
def get (bindings : Bindings) (name : String) (place : Option Location) : Except Unbound Symbol :=
  match bindings.lookup name with
  | some symbol => .ok symbol
  | none => .error ⟨name, place, bindings.similar name suggestionReach⟩

end Bindings

end IntExpr
