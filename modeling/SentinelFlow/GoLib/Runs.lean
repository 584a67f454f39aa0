/-!
# Runs of a machine

A machine is a step function on states.  A property that every permitted step
keeps holds after every run whose steps are all permitted.
-/

namespace GoLib

variable {S A : Type} (step : S → A → S)

/-- Every step of the run is permitted in the state in which it is made. -/
def Along (permitted : S → A → Prop) : S → List A → Prop
  | _, [] => True
  | state, action :: actions =>
      permitted state action ∧ Along permitted (step state action) actions

instance Along.decidable (permitted : S → A → Prop)
    [∀ state action, Decidable (permitted state action)] :
    ∀ state actions, Decidable (Along step permitted state actions)
  | _, [] => .isTrue trivial
  | state, action :: actions =>
      have := Along.decidable permitted (step state action) actions
      inferInstanceAs (Decidable (_ ∧ _))

/-- The actions of a run whose script chooses each one in the state it meets. -/
def play : S → List (S → A) → List A
  | _, [] => []
  | state, choose :: script =>
      choose state :: play (step state (choose state)) script

variable {step}

theorem Along.keeps
    {permitted : S → A → Prop} {motive : S → Prop}
    (kept : ∀ state action, permitted state action → motive state →
      motive (step state action))
    {actions : List A} {state : S}
    (along : Along step permitted state actions) (holds : motive state) :
    motive (actions.foldl step state) := by
  induction actions generalizing state with
  | nil => exact holds
  | cons action actions ih =>
      exact ih along.2 (kept state action along.1 holds)

/-- Without a condition, every run is permitted. -/
theorem along_true (state : S) (actions : List A) :
    Along step (fun _ _ => True) state actions := by
  induction actions generalizing state with
  | nil => trivial
  | cons action actions ih => exact ⟨trivial, ih _⟩

end GoLib
