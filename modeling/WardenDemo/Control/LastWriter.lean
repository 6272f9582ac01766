import WardenDemo.Control.Workflow
import WardenDemo.Fold.LastWrite

/-!
# The scenario map is last-writer-wins

Whether a scenario is in the map, whether it is enabled, and the value of each
of its params are registers of the map: a signal keeps, writes or resets them,
and the step which carries the map to the next run keeps them all.
-/

namespace WardenDemo.Control

open Fold

/-- What happens to the scenario map over a chain. -/
inductive Op where
  | signal (signal : Signal)
  | carry

/-- The map a run starts from when it is handed `carried`. -/
def carryStep (carried : ScenarioMap) : ScenarioMap :=
  (({} : DemoControlWorkflow).initialise (some carried)).scenarios

def applyOp (scenarios : ScenarioMap) : Op → ScenarioMap
  | .signal sent => applySignal scenarios sent
  | .carry => carryStep scenarios

def Op.resets : Op → Bool
  | .signal .resetAll => true
  | _ => false

/-- The scenario an operation writes. -/
def Op.name : Op → Option String
  | .signal (.setScenario name _ _) => some name
  | .signal (.recordAction _ _) => some actions
  | _ => none

/-- What an operation writes to whether a scenario is enabled. -/
def Op.enabledFor (name : String) : Op → Option Bool
  | .signal (.setScenario target enabled _) => if target = name then some enabled else none
  | _ => none

/-- What an operation writes to one param of a scenario. -/
def Op.paramFor (name key : String) : Op → Option Json
  | .signal (.setScenario target _ params) =>
      if target = name then (params.getD ∅).lookup key else none
  | .signal (.recordAction action moment) =>
      if actions = name ∧ action = key then some (.str moment) else none
  | _ => none

/-- The map a log of operations leads to from the defaults. -/
def replayed (log : List Op) : ScenarioMap := log.foldl applyOp defaultScenarios

section Carry

theorem carryStep_eq (carried : ScenarioMap) :
    carryStep carried = .update defaultScenarios carried := by
  by_cases empty : carried.keys = ∅
  · have none : carried = ∅ := by
      apply Finmap.ext_lookup
      intro name
      have absent : name ∉ carried := by simp [← Finmap.mem_keys, empty]
      rw [Finmap.lookup_eq_none.mpr absent, Finmap.lookup_empty]
    simp [carryStep, DemoControlWorkflow.initialise, none, Dict.update]
  · simp [carryStep, DemoControlWorkflow.initialise, empty]

/-- Carrying a map which has all the default scenarios changes nothing. -/
theorem carryStep_of_covers {carried : ScenarioMap} (covers : Covers carried) :
    carryStep carried = carried := by
  apply Finmap.ext_lookup
  intro name
  rw [carryStep_eq, Dict.lookup_update]
  cases found : carried.lookup name with
  | some scenario => rfl
  | none =>
      rw [Option.none_or, covers.lookup_defaultScenarios found]

end Carry

theorem covers_applySignal {scenarios : ScenarioMap} (covers : Covers scenarios)
    (signal : Signal) : Covers (applySignal scenarios signal) := by
  cases signal with
  | setScenario name enabled params => exact covers.insert _ _
  | resetAll => exact covers_defaultScenarios
  | recordAction name moment => exact covers.insert _ _

theorem covers_applyOp {scenarios : ScenarioMap} (covers : Covers scenarios) (op : Op) :
    Covers (applyOp scenarios op) := by
  cases op with
  | signal sent => exact covers_applySignal covers sent
  | carry =>
      have same : applyOp scenarios .carry = scenarios := carryStep_of_covers covers
      rwa [same]

/-- What an operation other than a reset does to the entry of a scenario. -/
theorem lookup_applyOp {scenarios : ScenarioMap} (covers : Covers scenarios) {op : Op}
    (kept : op.resets = false) (name : String) :
    (op.name ≠ some name ∧ (applyOp scenarios op).lookup name = scenarios.lookup name) ∨
    (∃ enabled params, op = .signal (.setScenario name enabled params) ∧
      (applyOp scenarios op).lookup name =
        some ⟨enabled, .update (scenarioOf scenarios name).params (params.getD ∅)⟩) ∨
    (∃ action moment, op = .signal (.recordAction action moment) ∧ name = actions ∧
      (applyOp scenarios op).lookup name =
        some ⟨(scenarioOf scenarios name).enabled,
          (scenarioOf scenarios name).params.insert action (.str moment)⟩) := by
  cases op with
  | carry =>
      have same : applyOp scenarios .carry = scenarios := carryStep_of_covers covers
      exact Or.inl ⟨nofun, by rw [same]⟩
  | signal sent =>
      cases sent with
      | resetAll => cases kept
      | setScenario target enabled params =>
          by_cases same : name = target
          · subst same
            exact Or.inr (Or.inl ⟨enabled, params, rfl, lookup_mergeScenario covers _ _ _⟩)
          · refine Or.inl ⟨?_, lookup_mergeScenario_of_ne same _ _ _⟩
            simpa [Op.name] using Ne.symm same
      | recordAction action moment =>
          by_cases same : name = actions
          · subst same
            exact Or.inr (Or.inr ⟨action, moment, rfl, rfl, Finmap.lookup_insert _⟩)
          · refine Or.inl ⟨?_, Finmap.lookup_insert_of_ne _ same⟩
            simpa [Op.name] using Ne.symm same

theorem applyOp_of_resets {op : Op} (reset : op.resets = true) (scenarios : ScenarioMap) :
    applyOp scenarios op = defaultScenarios := by
  cases op with
  | carry => cases reset
  | signal sent =>
      cases sent with
      | resetAll => rfl
      | setScenario _ _ _ | recordAction _ _ => cases reset

theorem enabledFor_of_name_ne {op : Op} {name : String} (other : op.name ≠ some name) :
    op.enabledFor name = none := by
  cases op with
  | carry => rfl
  | signal sent =>
      cases sent with
      | setScenario target _ _ =>
          have differs : target ≠ name := fun same => other (congrArg some same)
          simp [Op.enabledFor, differs]
      | resetAll | recordAction _ _ => rfl

theorem paramFor_of_name_ne {op : Op} {name : String} (other : op.name ≠ some name)
    (key : String) : op.paramFor name key = none := by
  cases op with
  | carry => rfl
  | signal sent =>
      cases sent with
      | setScenario target _ _ =>
          have differs : target ≠ name := fun same => other (congrArg some same)
          simp [Op.paramFor, differs]
      | recordAction _ _ =>
          have differs : actions ≠ name := fun same => other (congrArg some same)
          simp [Op.paramFor, differs]
      | resetAll => rfl

section Registers

/-- Whether the map has a scenario. -/
def membership (name : String) : Register ScenarioMap Op Bool where
  apply := applyOp
  Holds := Covers
  observe scenarios := (scenarios.lookup name).isSome
  resets := Op.resets
  writes op := if op.name = some name then some true else none
  initial := (defaultScenarios.lookup name).isSome
  preserved op covers := covers_applyOp covers op
  of_reset reset := by rw [applyOp_of_resets reset]
  of_written {scenarios op value} covers kept written := by
    rcases lookup_applyOp covers kept name with
      ⟨other, _⟩ | ⟨_, _, rfl, found⟩ | ⟨_, _, rfl, rfl, found⟩
    · simp [other] at written
    · simpa [found, Op.name] using written
    · simpa [found, Op.name] using written
  of_unwritten {scenarios op} covers kept unwritten := by
    rcases lookup_applyOp covers kept name with
      ⟨_, same⟩ | ⟨_, _, rfl, found⟩ | ⟨_, _, rfl, rfl, found⟩
    · rw [same]
    · simp [Op.name] at unwritten
    · simp [Op.name] at unwritten

/-- Whether a scenario is enabled. -/
def enablement (name : String) : Register ScenarioMap Op Bool where
  apply := applyOp
  Holds := Covers
  observe scenarios := (scenarioOf scenarios name).enabled
  resets := Op.resets
  writes := Op.enabledFor name
  initial := false
  preserved op covers := covers_applyOp covers op
  of_reset reset := by
    rw [applyOp_of_resets reset]
    exact scenarioOf_defaultScenarios_enabled name
  of_written {scenarios op value} covers kept written := by
    rcases lookup_applyOp covers kept name with
      ⟨other, _⟩ | ⟨_, _, rfl, found⟩ | ⟨_, _, rfl, rfl, found⟩
    · rw [enabledFor_of_name_ne other] at written
      cases written
    · rw [scenarioOf_of_lookup found]
      simpa [Op.enabledFor] using written
    · cases written
  of_unwritten {scenarios op} covers kept unwritten := by
    rcases lookup_applyOp covers kept name with
      ⟨_, same⟩ | ⟨_, _, rfl, found⟩ | ⟨_, _, rfl, rfl, found⟩
    · rw [scenarioOf, same, scenarioOf]
    · simp [Op.enabledFor] at unwritten
    · rw [scenarioOf_of_lookup found]

/-- The value of one param of a scenario, if it has one. -/
def parameter (name key : String) : Register ScenarioMap Op (Option Json) where
  apply := applyOp
  Holds := Covers
  observe scenarios := (scenarioOf scenarios name).params.lookup key
  resets := Op.resets
  writes op := (op.paramFor name key).map some
  initial := (scenarioOf defaultScenarios name).params.lookup key
  preserved op covers := covers_applyOp covers op
  of_reset reset := by rw [applyOp_of_resets reset]
  of_written {scenarios op value} covers kept written := by
    rcases lookup_applyOp covers kept name with
      ⟨other, _⟩ | ⟨_, params, rfl, found⟩ | ⟨action, moment, rfl, rfl, found⟩
    · rw [paramFor_of_name_ne other] at written
      cases written
    · obtain ⟨param, given, rfl⟩ := Option.map_eq_some_iff.mp written
      rw [scenarioOf_of_lookup found, Dict.lookup_update]
      simp only [Op.paramFor, if_true] at given
      rw [given, Option.some_or]
    · obtain ⟨param, given, rfl⟩ := Option.map_eq_some_iff.mp written
      rw [scenarioOf_of_lookup found, Dict.lookup_insert]
      by_cases same : key = action
      · simpa [Op.paramFor, same] using given
      · simp [Op.paramFor, Ne.symm same] at given
  of_unwritten {scenarios op} covers kept unwritten := by
    have none := Option.map_eq_none_iff.mp unwritten
    rcases lookup_applyOp covers kept name with
      ⟨_, same⟩ | ⟨_, params, rfl, found⟩ | ⟨action, moment, rfl, rfl, found⟩
    · rw [scenarioOf, same, scenarioOf]
    · simp only [Op.paramFor, if_true] at none
      rw [scenarioOf_of_lookup found, Dict.lookup_update, none, Option.none_or]
    · have differs : key ≠ action := by
        intro same
        simp [Op.paramFor, same] at none
      rw [scenarioOf_of_lookup found, Dict.lookup_insert, if_neg differs]

end Registers

section Replayed

variable (log : List Op) (name : String)

theorem mem_replayed_iff : name ∈ replayed log ↔
    name ∈ defaultScenarios ∨ ∃ op ∈ sinceReset Op.resets log, op.name = some name := by
  let writes (op : Op) : Option Bool := if op.name = some name then some true else none
  have member : ((replayed log).lookup name).isSome =
      (lastWritten writes (sinceReset Op.resets log)).getD
        (defaultScenarios.lookup name).isSome :=
    (membership name).observe_replay covers_defaultScenarios rfl log
  rw [← Finmap.lookup_isSome, ← Finmap.lookup_isSome, member]
  cases written : lastWritten writes (sinceReset Op.resets log) with
  | none =>
      have unwritten := lastWritten_eq_none.mp written
      constructor
      · exact fun default => Or.inl default
      · rintro (default | ⟨op, mem, named⟩)
        · exact default
        · have nothing := unwritten op mem
          simp [writes, named] at nothing
  | some value =>
      obtain ⟨op, mem, wrote⟩ := exists_of_lastWritten written
      obtain ⟨named, same⟩ := Option.ite_none_right_eq_some.mp wrote
      cases same
      exact ⟨fun _ => Or.inr ⟨op, mem, named⟩, fun _ => rfl⟩

theorem enabled_replayed : (scenarioOf (replayed log) name).enabled =
    (lastWritten (Op.enabledFor name) (sinceReset Op.resets log)).getD false :=
  (enablement name).observe_replay covers_defaultScenarios
    (scenarioOf_defaultScenarios_enabled name) log

theorem param_replayed (key : String) : (scenarioOf (replayed log) name).params.lookup key =
    (lastWritten (Op.paramFor name key) (sinceReset Op.resets log)).or
      ((scenarioOf defaultScenarios name).params.lookup key) := by
  have param : (scenarioOf (replayed log) name).params.lookup key =
      (lastWritten (fun op => (op.paramFor name key).map some)
        (sinceReset Op.resets log)).getD
        ((scenarioOf defaultScenarios name).params.lookup key) :=
    (parameter name key).observe_replay covers_defaultScenarios rfl log
  rw [param, lastWritten_map]
  cases lastWritten (Op.paramFor name key) (sinceReset Op.resets log) <;> rfl

end Replayed

/-- The scenario map is last-writer-wins per field. It has the default scenarios
and those written since the last reset; an entry is enabled as the last
`set_scenario` since then says, and has of each param what was written last
since then, or else the default. -/
theorem scenarios_last_written (log : List Op) (name : String) :
    (name ∈ replayed log ↔
      name ∈ defaultScenarios ∨ ∃ op ∈ sinceReset Op.resets log, op.name = some name) ∧
    ∀ scenario, (replayed log).lookup name = some scenario →
      scenario.enabled =
        (lastWritten (Op.enabledFor name) (sinceReset Op.resets log)).getD false ∧
      ∀ key, scenario.params.lookup key =
        (lastWritten (Op.paramFor name key) (sinceReset Op.resets log)).or
          ((scenarioOf defaultScenarios name).params.lookup key) := by
  refine ⟨mem_replayed_iff log name, fun scenario found => ?_⟩
  rw [← scenarioOf_of_lookup found]
  exact ⟨enabled_replayed log name, param_replayed log name⟩

/-- A scenario set twice, and carried to the next run in between. -/
theorem scenarios_last_written_of_two :
    ∃ log scenario, log.length = 3 ∧ (replayed log).lookup retryStorm = some scenario ∧
      scenario.enabled = false ∧ scenario.params.lookup "note" = some (.str "kept") := by
  let log : List Op :=
    [.signal (.setScenario retryStorm true (some (.literal [("note", .str "kept")]))), .carry,
      .signal (.setScenario retryStorm false none)]
  have written := (scenarios_last_written log retryStorm).2 _ rfl
  exact ⟨log, _, rfl, rfl, written.1, written.2 "note"⟩

end WardenDemo.Control
