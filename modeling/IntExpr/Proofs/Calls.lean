/-
This file says what a call of the command line asks for: bindings, flags and expressions, in
whatever order and spelling they are given. Any bindings, flags and expressions can be asked for.
The flags come first, then each binding behind an option of its own, and then the expressions
behind a double dash, which keeps those that start with a dash from being taken for options.
-/

import IntExpr.CommandLine
import Mathlib.Data.List.Forall2
import Mathlib.Data.List.TakeWhile

namespace IntExpr.CommandLine

/-! ### What is asked for -/

/-- The arguments of a call ask for some bindings and expressions, for trees and for JSON or not,
and for no log. -/
def Asks (arguments : List String) (tree json : Bool) (pairs : List (String × Int))
    (sources : List String) : Prop :=
  ∃ expressions, settings arguments = .ok ⟨expressions, pairs.map some, tree, json, false, []⟩ ∧
    expressions.getD [] = sources

/-- The arguments of a call that ask for the bindings of some texts, for some flags and for some
expressions. -/
def call (tree json : Bool) (texts sources : List String) : List String :=
  (if tree then ["--ast"] else []) ++ ((if json then ["--json"] else []) ++
    (texts.flatMap (fun text => ["-D", text]) ++ "--" :: sources))

/-! ### Sorting -/

theorem sortAll_cons {text : String} {sense : Sense} {rest : List String}
    {arguments : List Argument} (option : text ≠ "--") (sorted : sort text.toList = .ok sense)
    (others : sortAll rest = .ok arguments) :
    sortAll (text :: rest) = .ok (⟨text, sense⟩ :: arguments) := by
  rw [sortAll, sorted, others]
  · rfl
  · exact option

/-- A text that is a binding does not start with a dash. -/
theorem sort_of_read {text : String} {pair : String × Int} (binds : Binding.read text = .ok pair) :
    text ≠ "--" ∧ sort text.toList = .ok .plain := by
  have noDash (tail : List Char) : text.toList ≠ '-' :: tail := by
    intro dash
    have noParts : Binding.split ('-' :: tail) = none := rfl
    rw [Binding.read, dash, noParts] at binds
    cases binds
  constructor
  · rintro rfl
    exact noDash ['-'] rfl
  · rw [sort]
    exact fun second tail dash => (noDash (second :: tail) dash).elim

/-- The arguments that give the bindings of some texts, sorted. -/
def bindingArguments (texts : List String) : List Argument :=
  texts.flatMap fun text => [⟨"-D", .option .define .nothing⟩, ⟨text, .plain⟩]

section

variable {texts rest : List String} {pairs : List (String × Int)} {arguments : List Argument}

theorem sortAll_bindings
    (bind : List.Forall₂ (fun text pair => Binding.read text = .ok pair) texts pairs)
    (others : sortAll rest = .ok arguments) :
    sortAll (texts.flatMap (fun text => ["-D", text]) ++ rest) =
      .ok (bindingArguments texts ++ arguments) := by
  induction bind with
  | nil => exact others
  | cons binds _ inductionHypothesis =>
    obtain ⟨word, sorted⟩ := sort_of_read binds
    exact sortAll_cons (by decide) rfl (sortAll_cons word sorted inductionHypothesis)

theorem sortAll_flag {written : String} (flag : Flag) (raised : Bool) (word : written ≠ "--")
    (sorted : sort written.toList = .ok (.option (.flag flag) .nothing))
    (others : sortAll rest = .ok arguments) :
    sortAll ((if raised then [written] else []) ++ rest) =
      .ok ((if raised then [⟨written, .option (.flag flag) .nothing⟩] else []) ++ arguments) := by
  cases raised with
  | false => exact others
  | true => exact sortAll_cons word sorted others

end

/-! ### Working through -/

theorem work_option {written : String} {switch : Switch} {attached : Attached}
    {settings after : Settings} {rest behind : List Argument} {actions : List Action}
    (found : optionActions switch attached rest = .ok (actions, behind))
    (performed : actions.foldlM Settings.perform settings = .ok after) :
    work settings (⟨written, .option switch attached⟩ :: rest) = work after behind := by
  rw [work]
  dsimp only
  split
  · rename_i failed
    rw [found] at failed
    cases failed
  · rename_i actions behind same
    rw [found] at same
    cases same
    rw [performed]

/-- Each binding is added behind those before it. -/
theorem work_bindings {texts : List String} {pairs : List (String × Int)}
    (bind : List.Forall₂ (fun text pair => Binding.read text = .ok pair) texts pairs)
    (settings : Settings) (rest : List Argument) :
    work settings (bindingArguments texts ++ rest) =
      work { settings with bindings := settings.bindings ++ pairs.map some } rest := by
  induction bind generalizing settings with
  | nil => rw [List.map_nil, List.append_nil]; rfl
  | @cons text pair texts pairs binds _ inductionHypothesis =>
    have reads : readBinding text = .ok (some pair) := by
      rw [readBinding, if_neg (sort_of_read binds).1, binds]
    have performed : [Action.define text].foldlM Settings.perform settings =
        .ok { settings with bindings := settings.bindings ++ [some pair] } := by
      rw [List.foldlM_cons, Settings.perform, Settings.define, reads]
      rfl
    show work settings (⟨"-D", .option .define .nothing⟩ :: ⟨text, .plain⟩ ::
      (bindingArguments texts ++ rest)) = _
    rw [work_option rfl performed, inductionHypothesis, List.append_assoc]
    rfl

theorem work_flag {settings after : Settings} (written : String) (flag : Flag) (raised : Bool)
    (raises : settings.raise flag = .ok after) (rest : List Argument) :
    work settings
      ((if raised then [⟨written, .option (.flag flag) .nothing⟩] else []) ++ rest) =
      work (if raised then after else settings) rest := by
  cases raised with
  | false => rfl
  | true =>
    refine work_option rfl ?_
    rw [List.foldlM_cons, Settings.perform, raises]
    rfl

/-- Behind the double dash everything is an expression. -/
theorem work_expressions (settings : Settings) (fresh : settings.expressions = none)
    (sources : List String) :
    work settings (⟨"--", .separator⟩ :: sources.map (⟨·, .plain⟩)) =
      .ok { settings with expressions := some sources } := by
  have inRun : ∀ argument ∈ sources.map (Argument.mk · .plain), argument.inRun = true := by
    simp [Argument.inRun]
  have written : ((sources.map (Argument.mk · .plain)).filter (·.sense = .plain)).map
      Argument.written = sources := by
    rw [List.filter_eq_self.2 (by simp), List.map_map]
    exact List.map_id _
  rw [work]
  dsimp only
  rw [List.takeWhile_eq_self_iff.2 inRun, List.dropWhile_eq_nil_iff.2 inRun, work,
    Settings.takeRun, fresh]
  simp only [List.filter_cons, reduceCtorEq, decide_false, Bool.false_eq_true, if_false, written]

/-! ### Calls ask for what they are made of -/

/-- Any bindings, flags and expressions are asked for by the call that is made of them. -/
theorem asks_call (tree json : Bool) {texts : List String} {pairs : List (String × Int)}
    (bind : List.Forall₂ (fun text pair => Binding.read text = .ok pair) texts pairs)
    (sources : List String) : Asks (call tree json texts sources) tree json pairs sources := by
  have sorted : sortAll (call tree json texts sources) = .ok _ :=
    sortAll_flag .tree tree (by decide) rfl <|
      sortAll_flag .json json (by decide) rfl <| sortAll_bindings bind rfl
  refine ⟨some sources, ?_, rfl⟩
  rw [settings, sorted]
  dsimp only
  rw [work_flag "--ast" .tree tree rfl, work_flag "--json" .json json rfl, work_bindings bind,
    work_expressions]
  · cases tree <;> cases json <;> rfl
  · cases tree <;> cases json <;> rfl

end IntExpr.CommandLine
