/-
This file proves how one step is run after the other, where steps keep a state and may fail: the
second starts where the first has ended, and if the first fails there is no second. The scanner,
the parsers and the evaluation that keeps a record are all made of such steps. What each step
keeps of a state, also when it fails, the steps keep together.
-/

namespace IntExpr

section

variable {Cause State First Second : Type} {step : EStateM Cause State First}
  {others : First → EStateM Cause State Second} {state after : State}

theorem bind_of_ok {result : First} (ran : step state = .ok result after) :
    (step >>= others) state = others result after := by
  show EStateM.bind step others state = _
  rw [EStateM.bind, ran]

theorem bind_of_error {cause : Cause} (ran : step state = .error cause after) :
    (step >>= others) state = .error cause after := by
  show EStateM.bind step others state = _
  rw [EStateM.bind, ran]

/-! ### What steps keep -/

/-- The state in which a step ends, whether or not it fails. -/
def endState : EStateM.Result Cause State First → State
  | .ok _ after | .error _ after => after

/-- A step keeps a property: from a state that has it the step ends in one that has it, whether or
not it fails. -/
def Keeps (holds : State → Prop) (step : EStateM Cause State First) : Prop :=
  ∀ state, holds state → holds (endState (step state))

variable {holds : State → Prop}

theorem keeps_pure (result : First) :
    Keeps holds (pure result : EStateM Cause State First) := fun _ here => here

theorem keeps_throw (cause : Cause) :
    Keeps holds (throw cause : EStateM Cause State First) := fun _ here => here

/-- How a step ends that keeps a property. -/
theorem Keeps.cases (kept : Keeps holds step) (here : holds state) :
    (∃ result after, step state = .ok result after ∧ holds after) ∨
      ∃ cause after, step state = .error cause after ∧ holds after := by
  have behind := kept state here
  cases ran : step state with
  | ok result after =>
    rw [ran] at behind
    exact .inl ⟨result, after, rfl, behind⟩
  | error cause after =>
    rw [ran] at behind
    exact .inr ⟨cause, after, rfl, behind⟩

theorem Keeps.bind (kept : Keeps holds step) (othersKept : ∀ result, Keeps holds (others result)) :
    Keeps holds (step >>= others) := by
  intro state here
  rcases kept.cases here with ⟨result, after, ran, between⟩ | ⟨cause, after, failed, behind⟩
  · rw [bind_of_ok ran]
    exact othersKept result after between
  · rw [bind_of_error failed]
    exact behind

end

end IntExpr
