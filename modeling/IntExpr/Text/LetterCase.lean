/-
This file maps text to small and to capital letters, character by character, with the two
rules that one-to-one mappings miss: a mapping may give several characters, and a capital sigma
that ends a word becomes the final small sigma.
-/

import IntExpr.Text.CaseTable

namespace IntExpr.Text

/-- Where a run takes a code point, if the code point belongs to the run. -/
def CaseRun.image (run : CaseRun) (code : Nat) : Option Nat :=
  match run with
  | (first, last, step, amount) =>
    if first ≤ code && code ≤ last && (code - first) % step == 0 then
      some (code + amount).toNat
    else none

/-- The image under the first run that has the character; a character of no run stays. -/
def mapByRuns (runs : List CaseRun) (character : Char) : Char :=
  match runs.findSome? (CaseRun.image · character.toNat) with
  | some code => Char.ofNat code
  | none => character

/-! ### Small letters -/

/-- Whether the first character that counts for case is a cased letter. -/
def startsCased : List Char → Bool
  | [] => false
  | character :: rest =>
    if caseIgnorableCodes.covers character.toNat then startsCased rest
    else casedCodes.covers character.toNat

/-- The small form of one character between what stands before it, nearest first, and what
follows it. -/
def smallForm (before : List Char) (character : Char) (after : List Char) : List Char :=
  if character = 'Σ' then
    if startsCased before && !startsCased after then ['ς'] else ['σ']
  else if character = 'İ' then ['i', Char.ofNat 0x307]
  else [mapByRuns smallRuns character]

/-- The small forms of the rest of a text, given what stands before it, nearest first. -/
def smallForms (before : List Char) : List Char → List Char
  | [] => []
  | character :: rest =>
    smallForm before character rest ++ smallForms (character :: before) rest

/-- A text in small letters. -/
def toSmall (text : String) : String :=
  String.ofList (smallForms [] text.toList)

/-- An ASCII character has the same small form between any others. -/
theorem smallForm_of_ascii {character : Char} (ascii : character.toNat < 128)
    (before after : List Char) : smallForm before character after = [character.toLower] := by
  have noSigma : character ≠ 'Σ' := by
    rintro rfl
    exact absurd ascii (by decide)
  have noDotted : character ≠ 'İ' := by
    rintro rfl
    exact absurd ascii (by decide)
  have mapped : ∀ code < 128,
      mapByRuns smallRuns (Char.ofNat code) = (Char.ofNat code).toLower := by decide +kernel
  have here := mapped character.toNat ascii
  rw [Char.ofNat_toNat] at here
  rw [smallForm, if_neg noSigma, if_neg noDotted, here]

/-- Of an ASCII text the capital letters become small letters, and nothing else changes. -/
theorem toSmall_of_ascii {text : String}
    (ascii : ∀ character ∈ text.toList, character.toNat < 128) :
    (toSmall text).toList = text.toList.map Char.toLower := by
  have forms (before rest : List Char) (ascii : ∀ character ∈ rest, character.toNat < 128) :
      smallForms before rest = rest.map Char.toLower := by
    induction rest generalizing before with
    | nil => rfl
    | cons character rest inductionHypothesis =>
      rw [List.forall_mem_cons] at ascii
      rw [smallForms, smallForm_of_ascii ascii.1, inductionHypothesis _ ascii.2]
      rfl
  rw [toSmall, String.toList_ofList, forms [] _ ascii]

/-! ### Capital letters -/

/-- The capital form of one character. -/
def capitalForm (character : Char) : List Char :=
  match capitalExpansions.lookup character.toNat with
  | some codes => codes.map Char.ofNat
  | none => [mapByRuns capitalRuns character]

/-- A text in capital letters. -/
def toCapital (text : String) : String :=
  String.ofList (text.toList.flatMap capitalForm)

end IntExpr.Text
