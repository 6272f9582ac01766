import WardenDemo.Common.Results
import WardenDemo.Control.Workflow
import WardenDemo.Traffic.Loops

/-!
# Parameters which stop the generator

The loops convert the parameters of enabled scenarios, and nothing catches what
`int` and `float` raise. An iteration completes exactly when the conversions it
comes to succeed, whatever is drawn and whatever the client replies.
-/

namespace WardenDemo.Traffic

open Control Generator Results

section Conversions

variable {numerals : Json.Numerals} {config : Config} {self : Process}

@[simp] theorem convert_isOk {α : Type} (value : Option α) :
    (convert value).isOk = value.isSome := by
  cases value <;> rfl

@[simp] theorem suppress_eq (reply : Reply) : suppress reply = .ok () := by
  cases reply <;> rfl

theorem strikes_isOk (self : Generator) (name : String) (probability : Option FloatValue)
    (draw : Rat) : (self.strikes name probability draw).isOk =
      (!self.enabled name || probability.isSome) := by
  unfold Generator.strikes
  cases self.enabled name <;> simp

/-- `order_loop` converts the probabilities of both scenarios that strike orders. -/
theorem orderIteration_isOk (draws : OrderDraws) (reply : Reply) :
    (self.orderIteration numerals config draws reply).isOk = true ↔
      (self.enabled workflowFailure = true →
        (self.failureProbability numerals).isSome = true) ∧
      (self.enabled timeoutSpike = true →
        (self.timeoutProbability numerals).isSome = true) := by
  have starts : (self.orderStart numerals config draws).isOk =
      ((!self.enabled workflowFailure || (self.failureProbability numerals).isSome) &&
        (!self.enabled timeoutSpike || (self.timeoutProbability numerals).isSome)) := by
    rw [Process.orderStart, ← strikes_isOk _ _ _ draws.failure,
      ← strikes_isOk _ _ _ draws.timeout]
    exact isOk_bind_of_same _ fun _ => isOk_bind_of_total _ fun _ => rfl
  have iterates : (self.orderIteration numerals config draws reply).isOk =
      (self.orderStart numerals config draws).isOk := by
    refine isOk_bind_of_total _ fun _ => ?_
    cases reply <;> rfl
  rw [iterates, starts, Bool.and_eq_true]
  apply and_congr
  · cases self.enabled workflowFailure <;> simp
  · cases self.enabled timeoutSpike <;> simp

/-- `batch_loop` looks at one scenario at a time: the fan-out goes first. -/
theorem batchIteration_isOk (batchId : String) (children : Int) (reply : Reply) :
    (self.batchIteration numerals batchId children reply).isOk = true ↔
      (self.enabled fanoutStorm = true → (self.fanoutChildren numerals).isSome = true) ∧
      (self.enabled fanoutStorm = false → self.enabled closeHistoryBloat = true →
        (self.bloatIterations numerals).isSome = true) := by
  have iterates : (self.batchIteration numerals batchId children reply).isOk =
      (self.batchInput numerals batchId children).isOk := by
    refine isOk_bind_of_total _ fun _ => ?_
    rw [suppress_eq]
    rfl
  rw [iterates, Process.batchInput]
  cases self.enabled fanoutStorm with
  | true => simp
  | false => cases self.enabled closeHistoryBloat <;> simp

theorem controlTick_after_isSome (self : Generator) :
    (self.controlTick numerals.toText).after.isSome = true ↔
      (self.enabled entityHistory = true → (self.inflateRate numerals).isSome = true) := by
  have rate : (self.configuredDegradation numerals.toText).isSome =
      (self.inflateRate numerals).isSome := Option.isSome_map
  rw [← rate]
  unfold Generator.controlTick
  cases self.enabled entityHistory with
  | true => cases self.configuredDegradation numerals.toText <;> simp
  | false => cases self.degradedRegion.truthy <;> simp

/-- `control_loop` converts the rate of the map it has just refreshed. -/
theorem controlIteration_isOk (queried : Option ScenarioMap) (reset degrade : Reply) :
    (self.controlIteration numerals queried reset degrade).isOk = true ↔
      ((self.refreshScenarios queried).enabled entityHistory = true →
        ((self.refreshScenarios queried).inflateRate numerals).isSome = true) := by
  have iterates : (self.controlIteration numerals queried reset degrade).isOk =
      (convert ((self.refreshScenarios queried).controlTick numerals.toText).after).isOk := by
    rw [Process.controlIteration, suppress_eq, suppress_eq]
    exact isOk_bind_of_total (convert _) fun _ => rfl
  rw [iterates, convert_isOk, controlTick_after_isSome]

end Conversions

/-- Each parameter which the loops come to for the enabled scenarios is a value
that `int` or `float` accepts. -/
structure Convertible (numerals : Json.Numerals) (observed : Generator) : Prop where
  failureProbability : observed.enabled workflowFailure = true →
    (observed.failureProbability numerals).isSome = true
  timeoutProbability : observed.enabled timeoutSpike = true →
    (observed.timeoutProbability numerals).isSome = true
  fanoutChildren : observed.enabled fanoutStorm = true →
    (observed.fanoutChildren numerals).isSome = true
  bloatIterations : observed.enabled fanoutStorm = false →
    observed.enabled closeHistoryBloat = true →
    (observed.bloatIterations numerals).isSome = true
  inflateRate : observed.enabled entityHistory = true →
    (observed.inflateRate numerals).isSome = true

/-- The map that a list of set_scenario signals leads to. -/
def scenariosAfter (updates : List (String × Bool × Option (Dict Json))) : ScenarioMap :=
  applySignals defaultScenarios
    (updates.map fun (name, enabled, params) => .setScenario name enabled params)

/-- For every map that set_scenario signals lead to, an iteration of each of the
three loops which read parameters completes, whatever is drawn, if and only if
each parameter they come to converts. -/
theorem iterations_complete_iff (numerals : Json.Numerals) (config : Config)
    (updates : List (String × Bool × Option (Dict Json))) (before : Process)
    (draws : OrderDraws) (batchId : String) (children : Int) :
    let process := { before with scenarios := scenariosAfter updates }
    ((process.orderIteration numerals config draws (.ok ())).isOk = true ∧
      (process.batchIteration numerals batchId children (.ok ())).isOk = true ∧
      (process.controlIteration numerals (some (scenariosAfter updates)) (.ok ())
        (.ok ())).isOk = true) ↔
    Convertible numerals process.toGenerator := by
  intro process
  rw [orderIteration_isOk, batchIteration_isOk, controlIteration_isOk]
  constructor
  · rintro ⟨⟨failure, timeout⟩, ⟨fanout, bloat⟩, rate⟩
    exact ⟨failure, timeout, fanout, bloat, rate⟩
  · rintro ⟨failure, timeout, fanout, bloat, rate⟩
    exact ⟨⟨failure, timeout⟩, ⟨fanout, bloat⟩, rate⟩

/-- The workflow_failure scenario enabled with a null probability. -/
def clearedProbability : List (String × Bool × Option (Dict Json)) :=
  [(workflowFailure, true, some (.literal [("failure_probability", .null)]))]

/-- How values are read where no text is a number. -/
def wordNumerals : Json.Numerals where
  parseInt _ := none
  format _ := ""
  parseFloat _ := none

/-- A null probability stops `order_loop`. -/
theorem null_parameter_stops_orders :
    ¬ ∀ (numerals : Json.Numerals) (config : Config)
      (updates : List (String × Bool × Option (Dict Json))) (before : Process)
      (draws : OrderDraws) (batchId : String) (children : Int),
      let process := { before with scenarios := scenariosAfter updates }
      (process.orderIteration numerals config draws (.ok ())).isOk = true ∧
        (process.batchIteration numerals batchId children (.ok ())).isOk = true ∧
        (process.controlIteration numerals (some (scenariosAfter updates)) (.ok ())
          (.ok ())).isOk = true := by
  intro completes
  have orders := (completes wordNumerals {} clearedProbability {}
    ⟨"us-west", "rest-1", "0123456789ab", 0, 0⟩ "0123456789" 6).1
  rw [orderIteration_isOk] at orders
  have converts := orders.1 rfl
  exact absurd converts (by decide)

end WardenDemo.Traffic
