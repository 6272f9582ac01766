/-!
# Runs of a controller

A controller is a function from a state and a label to the next state. An invariant
holds wherever a run leads. `Along` says of a run what holds at each of its steps,
before the step is taken.
-/

namespace WardenDemo.Fold

variable {State Label : Type} {step : State → Label → State}

/-- What every step preserves holds wherever a run leads. -/
theorem foldl_of_invariant {Inv : State → Prop}
    (preserved : ∀ state label, Inv state → Inv (step state label)) {state : State}
    (start : Inv state) (labels : List Label) : Inv (labels.foldl step state) := by
  induction labels generalizing state with
  | nil => exact start
  | cons label rest ih => exact ih (preserved state label start)

/-- `holds` is true at every step of the run of `labels` from `state`. -/
def Along (step : State → Label → State) (holds : State → Label → Prop) :
    State → List Label → Prop
  | _, [] => True
  | state, label :: rest => holds state label ∧ Along step holds (step state label) rest

/-- The last step of a run is taken where the ones before it lead. -/
theorem Along.last {holds : State → Label → Prop} {state : State} {labels : List Label}
    {label : Label} (along : Along step holds state (labels ++ [label])) :
    holds (labels.foldl step state) label := by
  induction labels generalizing state with
  | nil => exact along.1
  | cons first rest ih => exact ih along.2

/-- What is equivalent at every step is equivalent along every run. -/
theorem along_congr {holds holds' : State → Label → Prop}
    (same : ∀ state label, holds state label ↔ holds' state label) (state : State)
    (labels : List Label) : Along step holds state labels ↔ Along step holds' state labels := by
  induction labels generalizing state with
  | nil => exact Iff.rfl
  | cons label rest ih => exact and_congr (same state label) (ih _)

/-- What an invariant makes equivalent to the steps that keep it is equivalent along
every run. -/
theorem along_iff_of_invariant {admits holds : State → Label → Prop} {Inv : State → Prop}
    (preserved : ∀ state label, Inv state → admits state label → Inv (step state label))
    (same : ∀ state label, Inv state → (holds state label ↔ admits state label))
    {state : State} (start : Inv state) (labels : List Label) :
    Along step holds state labels ↔ Along step admits state labels := by
  induction labels generalizing state with
  | nil => exact Iff.rfl
  | cons label rest ih =>
      rw [Along, Along, same state label start]
      exact and_congr_right fun admitted => ih (preserved state label start admitted)

/-- What an invariant gives at an admitted step holds along every admitted run. -/
theorem Along.of_invariant {admits holds : State → Label → Prop} {Inv : State → Prop}
    (preserved : ∀ state label, Inv state → admits state label → Inv (step state label))
    (gives : ∀ state label, Inv state → admits state label → holds state label)
    {state : State} (start : Inv state) {labels : List Label}
    (admitted : Along step admits state labels) : Along step holds state labels := by
  induction labels generalizing state with
  | nil => trivial
  | cons label rest ih =>
      obtain ⟨here, later⟩ := admitted
      exact ⟨gives state label start here, ih (preserved state label start here) later⟩

end WardenDemo.Fold
