/-
This file works through the sorted arguments of the command line and arrives at the settings of
a run, unless an option or a fault ends the run before it starts. Faults in the spelling of any
argument come first; then the arguments act in order, so the first of help, version and fault
decides; words that are left over are refused last.
-/

import IntExpr.CommandLine.Arguments

namespace IntExpr.CommandLine

/-- What a run is to do. -/
structure Settings where
  /-- The expressions, once a run of plain arguments has been met. -/
  expressions : Option (List String)
  /-- The bindings, in the order in which they were given; there is nothing in the place of one
  that was left empty. -/
  bindings : List (Option (String × Int))
  /-- Whether trees are shown. -/
  tree : Bool
  /-- Whether results are written as JSON. -/
  json : Bool
  /-- Whether the progress of the run is logged. -/
  verbose : Bool
  /-- Words that no option and no expression took. -/
  leftOver : List String
deriving DecidableEq, Inhabited

/-- The settings before any argument has been met. -/
def Settings.initial : Settings := ⟨none, [], false, false, false, []⟩

/-- Why a run ends before it starts. -/
inductive Stop where
  | help
  | version
  | fault (cause : UsageError)
deriving DecidableEq, Inhabited

/-- A binding as it is given to the option for it. A double dash is dropped and leaves the binding
empty. -/
def readBinding (text : String) : Except Stop (Option (String × Int)) :=
  if text = "--" then .ok none
  else
    match Binding.read text with
    | .ok binding => .ok (some binding)
    | .error cause => .error (.fault (.badBinding text cause))

/-- The settings with one more binding. -/
def Settings.define (settings : Settings) (text : String) : Except Stop Settings :=
  (readBinding text).map fun binding =>
    { settings with bindings := settings.bindings ++ [binding] }

/-- The settings after a flag. -/
def Settings.raise (settings : Settings) : Flag → Except Stop Settings
  | .help => .error .help
  | .version => .error .version
  | .tree => .ok { settings with tree := true }
  | .json => .ok { settings with json := true }
  | .verbose => .ok { settings with verbose := true }

/-- The settings with more words left over. -/
def Settings.leaveOver (settings : Settings) (words : List String) : Settings :=
  { settings with leftOver := settings.leftOver ++ words }

/-- The settings after an action. -/
def Settings.perform (settings : Settings) : Action → Except Stop Settings
  | .flag flag => settings.raise flag
  | .define text => settings.define text

/-- Whether an argument belongs to a run of plain arguments. -/
def Argument.inRun (argument : Argument) : Bool :=
  argument.sense = .plain || argument.sense = .separator

/-- The settings after a run of plain arguments. The first run gives the expressions, without
its double dash; any other is left over with it. -/
def Settings.takeRun (settings : Settings) (run : List Argument) : Settings :=
  match settings.expressions with
  | none =>
    let plain := run.filter (·.sense = .plain)
    { settings with expressions := some (plain.map Argument.written) }
  | some _ => settings.leaveOver (run.map Argument.written)

/-! ### The arguments left to work through become fewer -/

theorem freeActions_length_le {switch : Switch} {rest behind : List Argument}
    {actions : List Action} (found : freeActions switch rest = .ok (actions, behind)) :
    behind.length ≤ rest.length := by
  unfold freeActions at found
  split at found
  · cases found
    exact Nat.le_refl _
  · cases found
    simp
  · cases found

theorem valueActions_length_le {switch : Switch} {text : List Char}
    {rest behind : List Argument} {actions : List Action}
    (found : valueActions switch text rest = .ok (actions, behind)) :
    behind.length ≤ rest.length := by
  unfold valueActions at found
  split at found
  · cases found
  · cases found
    exact Nat.le_refl _

theorem exists_of_afterFlag {flag : Flag} {others : Actions} {behind : List Argument}
    {actions : List Action} (found : afterFlag flag others = .ok (actions, behind)) :
    ∃ later, others = .ok (later, behind) := by
  cases others with
  | error message => cases found
  | ok pair =>
    cases found
    exact ⟨_, rfl⟩

theorem tailActions_length_le {switch : Switch} {text : List Char} {rest behind : List Argument}
    {actions : List Action} (found : tailActions switch text rest = .ok (actions, behind)) :
    behind.length ≤ rest.length := by
  induction text generalizing switch actions with
  | nil =>
    cases switch with
    | flag flag => cases found
    | define =>
      cases found
      exact Nat.le_refl _
  | cons letter tail inductionHypothesis =>
    cases switch with
    | define =>
      cases found
      exact Nat.le_refl _
    | flag flag =>
      unfold tailActions at found
      split at found
      · cases found
      · split at found
        · obtain ⟨_, free⟩ := exists_of_afterFlag found
          exact freeActions_length_le free
        · obtain ⟨_, inner⟩ := exists_of_afterFlag found
          exact inductionHypothesis inner

theorem optionActions_length_le {switch : Switch} {attached : Attached}
    {rest behind : List Argument} {actions : List Action}
    (found : optionActions switch attached rest = .ok (actions, behind)) :
    behind.length ≤ rest.length := by
  cases attached with
  | nothing => exact freeActions_length_le found
  | value text => exact valueActions_length_le found
  | tail text => exact tailActions_length_le found

/-! ### Arriving at the settings -/

/-- The settings after some arguments. -/
def work (settings : Settings) (arguments : List Argument) : Except Stop Settings :=
  match arguments with
  | [] => .ok settings
  | argument :: rest =>
    match argument.sense with
    | .option switch attached =>
      match _ : optionActions switch attached rest with
      | .error cause => .error (.fault cause)
      | .ok (actions, behind) =>
        match actions.foldlM Settings.perform settings with
        | .error stop => .error stop
        | .ok settings => work settings behind
    | .unknown => work (settings.leaveOver [argument.written]) rest
    | _ =>
      work (settings.takeRun (argument :: rest.takeWhile Argument.inRun))
        (rest.dropWhile Argument.inRun)
termination_by arguments.length
decreasing_by
  · have bound := optionActions_length_le ‹_›
    simp only [List.length_cons]
    omega
  · simp
  · have bound := (List.dropWhile_sublist (p := Argument.inRun) (l := rest)).length_le
    simp only [List.length_cons]
    omega

/-- The settings that the arguments of a call ask for. -/
def settings (arguments : List String) : Except Stop Settings :=
  match sortAll arguments with
  | .error cause => .error (.fault cause)
  | .ok sorted =>
    match work .initial sorted with
    | .error stop => .error stop
    | .ok settings =>
      match settings.leftOver with
      | [] => .ok settings
      | words => .error (.fault (.leftOver words))

end IntExpr.CommandLine
