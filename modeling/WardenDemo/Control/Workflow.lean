import WardenDemo.Control.Schema
import WardenDemo.Durable.Workflow

/-!
# DemoControlWorkflow

The durable state of record for demo scenarios: it holds the scenario map,
applies signals to it, and continues as new to keep its own history bounded.
-/

namespace WardenDemo.Control

open Durable

/-- Continue-as-new after this many applied signals, or past this history. -/
def maxSignals : Nat := 500
def maxHistory : Nat := 1500

/-- The pseudo-scenario which records one-shot actions for display. -/
def actions : String := "_actions"

inductive Signal where
  | setScenario (name : String) (enabled : Bool) (params : Option (Dict Json))
  | resetAll
  | recordAction (name : String) (moment : String)

/-- What a signal makes of the scenario map. -/
def applySignal (scenarios : ScenarioMap) : Signal → ScenarioMap
  | .setScenario name enabled params =>
      mergeScenario scenarios name enabled (params.getD ∅)
  | .resetAll => defaultScenarios
  | .recordAction name moment =>
      let entry := scenarioOf scenarios actions
      scenarios.insert actions { entry with params := entry.params.insert name (.str moment) }

/-- The left fold of the signals over a scenario map. -/
def applySignals (scenarios : ScenarioMap) (signals : List Signal) : ScenarioMap :=
  signals.foldl applySignal scenarios

/-- The instance attributes of `DemoControlWorkflow`. -/
structure DemoControlWorkflow where
  scenarios : ScenarioMap := defaultScenarios
  applied : Nat := 0

inductive Pc where
  | entry (carried : Option ScenarioMap)
  | wait
  | check

namespace DemoControlWorkflow

def handle (signal : Signal) (self : DemoControlWorkflow) : DemoControlWorkflow where
  scenarios := applySignal self.scenarios signal
  applied := self.applied + 1

/-- The first statements of `run`: a non-empty carried map, merged over the
defaults, replaces what handlers have left. -/
def initialise (self : DemoControlWorkflow) : Option ScenarioMap → DemoControlWorkflow
  | none => self
  | some carried =>
      if carried.keys = ∅ then self
      else { self with scenarios := .update defaultScenarios carried }

def wakes (self : DemoControlWorkflow) (history : Nat) : Bool :=
  decide (self.applied > 0) || decide (history > maxHistory)

def continueDue (self : DemoControlWorkflow) (history : Nat) : Bool :=
  decide (self.applied ≥ maxSignals) || decide (history > maxHistory)

def step (history : Nat) : Pc → DemoControlWorkflow →
    Action (Option ScenarioMap) DemoControlWorkflow Pc Empty Empty
  | .entry carried, self => .proceed .wait (self.initialise carried) []
  | .wait, self => if self.wakes history then .proceed .check self [] else .suspend
  | .check, self =>
      if self.continueDue history then .continueAsNew (some self.scenarios) []
      else .proceed .wait { self with applied := 0 } []

/-- The answer of the `get_state` query. -/
def getState (self : DemoControlWorkflow) : ScenarioMap := self.scenarios

end DemoControlWorkflow

/-- `DemoControlWorkflow` as the server runs it. It awaits nothing but its wait
condition, and never returns. -/
def controlWorkflow :
    Workflow (Option ScenarioMap) Signal DemoControlWorkflow Pc Empty Empty where
  init := {}
  handle := DemoControlWorkflow.handle
  entry := .entry
  step := DemoControlWorkflow.step
  resume _ _ _ := none

abbrev Event := Durable.Event (Option ScenarioMap) Signal DemoControlWorkflow Pc Empty Empty
abbrev Config := Durable.Config DemoControlWorkflow Pc Empty

end WardenDemo.Control
