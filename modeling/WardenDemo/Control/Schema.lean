import WardenDemo.Common.Json

/-!
# Scenario registry

The control-state schema: the scenarios, their disabled healthy defaults, and
the merge of one update into the map.
-/

namespace WardenDemo.Control

def retryStorm : String := "retry_storm"
def entityHistory : String := "entity_history"
def closeHistoryBloat : String := "close_history_bloat"
def workflowFailure : String := "workflow_failure"
def timeoutSpike : String := "timeout_spike"
def fanoutStorm : String := "fanout_storm"

/-- One scenario; the default is the fallback of an unknown name. -/
structure Scenario where
  enabled : Bool := false
  params : Dict Json := ∅

abbrev ScenarioMap := Dict Scenario

/-- The healthy baseline: every scenario disabled with default params. -/
def defaultEntries : List (String × Scenario) :=
  [(retryStorm, ⟨false, .literal [("failure_probability", .float .pointSix)]⟩),
    (entityHistory, ⟨false, .literal
      [("region", .str "us-west"), ("suspend_can", .bool true),
        ("inflate_history", .bool true), ("inflate_rate", .int 40)]⟩),
    (closeHistoryBloat, ⟨false, .literal [("iterations", .int 700)]⟩),
    (workflowFailure, ⟨false, .literal [("failure_probability", .float .pointFour)]⟩),
    (timeoutSpike, ⟨false, .literal
      [("mode", .str "workflow"), ("probability", .float (.finite (1 / 2)))]⟩),
    (fanoutStorm, ⟨false, .literal [("children", .int 400)]⟩)]

def defaultScenarios : ScenarioMap := .literal defaultEntries

/-- Upsert one scenario into the map, merging params over what it has. -/
def mergeScenario (state : ScenarioMap) (name : String) (enabled : Bool)
    (params : Dict Json) : ScenarioMap :=
  let base := ((state.lookup name).or (defaultScenarios.lookup name)).getD {}
  state.insert name ⟨enabled, .update base.params params⟩

/-- The entry of a scenario, disabled and without params if it has none. -/
def scenarioOf (state : ScenarioMap) (name : String) : Scenario :=
  (state.lookup name).getD {}

/-- A map with at least the default scenarios. -/
def Covers (state : ScenarioMap) : Prop := ∀ name ∈ defaultScenarios, name ∈ state

theorem covers_defaultScenarios : Covers defaultScenarios := fun _ mem => mem

theorem Covers.insert {state : ScenarioMap} (covers : Covers state) (name : String)
    (scenario : Scenario) : Covers (state.insert name scenario) :=
  fun other mem => Finmap.mem_insert.mpr (Or.inr (covers other mem))

/-- What a covering map lacks, the defaults lack too. -/
theorem Covers.lookup_defaultScenarios {state : ScenarioMap} (covers : Covers state)
    {name : String} (absent : state.lookup name = none) : defaultScenarios.lookup name = none := by
  rw [Finmap.lookup_eq_none] at absent ⊢
  intro mem
  exact absent (covers name mem)

/-- Every default scenario is disabled. -/
theorem defaultScenarios_disabled {name : String} {scenario : Scenario}
    (found : defaultScenarios.lookup name = some scenario) : scenario.enabled = false := by
  have mem : (name, scenario) ∈ defaultEntries := Dict.mem_of_lookup_literal found
  simp only [defaultEntries, List.mem_cons, List.not_mem_nil, or_false, Prod.mk.injEq] at mem
  rcases mem with ⟨_, rfl⟩ | ⟨_, rfl⟩ | ⟨_, rfl⟩ | ⟨_, rfl⟩ | ⟨_, rfl⟩ | ⟨_, rfl⟩ <;> rfl

theorem scenarioOf_of_lookup {state : ScenarioMap} {name : String} {scenario : Scenario}
    (found : state.lookup name = some scenario) : scenarioOf state name = scenario := by
  rw [scenarioOf, found, Option.getD_some]

theorem scenarioOf_defaultScenarios_enabled (name : String) :
    (scenarioOf defaultScenarios name).enabled = false := by
  cases found : defaultScenarios.lookup name with
  | some scenario =>
      rw [scenarioOf_of_lookup found]
      exact defaultScenarios_disabled found
  | none => rw [scenarioOf, found, Option.getD_none]

/-- A covering map never falls back on the defaults. -/
theorem lookup_mergeScenario {state : ScenarioMap} (covers : Covers state) (name : String)
    (enabled : Bool) (params : Dict Json) :
    (mergeScenario state name enabled params).lookup name =
      some ⟨enabled, .update (scenarioOf state name).params params⟩ := by
  rw [mergeScenario, Finmap.lookup_insert, scenarioOf]
  cases found : state.lookup name with
  | some scenario => rfl
  | none => rw [covers.lookup_defaultScenarios found, Option.none_or]

theorem lookup_mergeScenario_of_ne {name other : String} (differs : other ≠ name)
    (state : ScenarioMap) (enabled : Bool) (params : Dict Json) :
    (mergeScenario state name enabled params).lookup other = state.lookup other :=
  Finmap.lookup_insert_of_ne _ differs

end WardenDemo.Control
