import WardenDemo.Control.LastWriter
import WardenDemo.Durable.Invariant
import WardenDemo.Durable.Schedule
import WardenDemo.Durable.Trace

/-!
# Updates across continue-as-new

The map a chain holds is the fold of the signals it handled, in order, except
those delivered with the first activation of a continued run: `run` replaces the
map their handlers have updated by the carried one.
-/

namespace WardenDemo.Control

open Durable

/-- The map which `run` is about to adopt. -/
def carriedTo : Pc → Option ScenarioMap
  | .entry carried => carried
  | _ => none

def handledSignal : Event → Option Signal
  | .handled _ _ signal => some signal
  | _ => none

/-- A signal handled before the first statement of `run`, in a continued run. -/
def earlySignal : Event → Option Signal
  | .handled pc _ signal => if (carriedTo pc).isSome then some signal else none
  | _ => none

def keptSignal : Event → Option Signal
  | .handled pc _ signal => if (carriedTo pc).isSome then none else some signal
  | _ => none

/-- The signals a chain has handled, in order. -/
def signalsHandled (trace : List Event) : List Signal := collect handledSignal trace

def signalsBeforeRun (trace : List Event) : List Signal := collect earlySignal trace

def signalsKept (trace : List Event) : List Signal := collect keptSignal trace

theorem keptSignal_shares (event : Event) :
    (keptSignal event = handledSignal event ∧ earlySignal event = none) ∨
      (keptSignal event = none ∧ earlySignal event = handledSignal event) := by
  cases event with
  | handled pc before signal =>
      by_cases early : (carriedTo pc).isSome = true
      · exact Or.inr ⟨if_pos early, if_pos early⟩
      · exact Or.inl ⟨if_neg early, if_neg early⟩
  | _ => exact Or.inl ⟨rfl, rfl⟩

/-- The map a run holds: before its first statement, the one carried to it. -/
def heldScenarios (pc : Pc) (self : DemoControlWorkflow) : ScenarioMap :=
  (carriedTo pc).getD self.scenarios

/-- The kept signals account for the held map. -/
def UpdatesApplied (trace : List Event) (pc : Pc) (self : DemoControlWorkflow) : Prop :=
  heldScenarios pc self = applySignals defaultScenarios (signalsKept trace) ∧
    Covers (heldScenarios pc self)

theorem applySignals_append (scenarios : ScenarioMap) (signals : List Signal)
    (signal : Signal) : applySignals scenarios (signals ++ [signal]) =
      applySignal (applySignals scenarios signals) signal := by
  simp [applySignals]

/-- Adopting a carried map which has all the default scenarios yields it. -/
theorem initialise_of_covers {carried : ScenarioMap} (covers : Covers carried)
    (self : DemoControlWorkflow) : (self.initialise (some carried)).scenarios = carried := by
  have nonempty : carried.keys ≠ ∅ := by
    intro empty
    have mem : retryStorm ∈ carried := covers _ (by decide)
    rw [← Finmap.mem_keys, empty] at mem
    cases mem
  have same := carryStep_of_covers covers
  rw [carryStep_eq] at same
  rw [DemoControlWorkflow.initialise, if_neg nonempty]
  exact same

section Steps

attribute [local simp] heldScenarios signalsKept keptSignal

variable {trace : List Event} {pc next : Pc} {self self' : DemoControlWorkflow}
  {history : Nat} {commands : List Empty}

theorem UpdatesApplied.handled (holds : UpdatesApplied trace pc self) (signal : Signal) :
    UpdatesApplied (trace ++ [.handled pc self signal]) pc (self.handle signal) := by
  obtain ⟨applied, covers⟩ := holds
  cases carried : carriedTo pc with
  | some map =>
      simp only [heldScenarios, carried, Option.getD_some] at applied covers
      exact ⟨by simpa [carried] using applied, by simpa [carried] using covers⟩
  | none =>
      simp only [heldScenarios, carried, Option.getD_none] at applied covers
      simp only [signalsKept] at applied
      constructor
      · simp [carried, applySignals_append, DemoControlWorkflow.handle, applied]
      · simpa [carried, DemoControlWorkflow.handle] using covers_applySignal covers signal

/-- The first statements adopt the carried map; the loop only resets the count. -/
theorem UpdatesApplied.proceeds (holds : UpdatesApplied trace pc self)
    (stepped : DemoControlWorkflow.step history pc self = .proceed next self' commands) :
    UpdatesApplied (trace ++ commands.map .issued) next self' := by
  obtain rfl : commands = [] := List.eq_nil_iff_forall_not_mem.mpr fun command => command.elim
  rw [List.map_nil, List.append_nil]
  cases pc with
  | entry carried =>
      cases stepped
      cases carried with
      | none => exact holds
      | some carried =>
          have adopted : (self.initialise (some carried)).scenarios = carried :=
            initialise_of_covers holds.2 self
          change (self.initialise (some carried)).scenarios = _ ∧
            Covers (self.initialise (some carried)).scenarios
          rw [adopted]
          exact holds
  | wait | check =>
      rw [DemoControlWorkflow.step] at stepped
      split at stepped <;> cases stepped
      exact holds

/-- Only the test after the wait continues as new, with the whole map. -/
theorem continues_of_step {input : Option ScenarioMap}
    (stepped : DemoControlWorkflow.step history pc self = .continueAsNew input commands) :
    pc = .check ∧ self.continueDue history = true ∧ input = some self.scenarios ∧
      commands = [] := by
  cases pc with
  | entry carried => cases stepped
  | wait =>
      rw [DemoControlWorkflow.step] at stepped
      split at stepped <;> cases stepped
  | check =>
      rw [DemoControlWorkflow.step] at stepped
      split at stepped <;> cases stepped
      exact ⟨rfl, by assumption, rfl, rfl⟩

/-- The kept signals are applied to the map wherever a chain is. -/
def updatesApplied : controlWorkflow.Invariant none where
  Idle trace pc self _ := UpdatesApplied trace pc self
  Busy trace pc self _ := UpdatesApplied trace pc self
  initial := ⟨rfl, covers_defaultScenarios⟩
  handled signal holds := holds.handled signal
  advanced holds _ := by simpa [UpdatesApplied] using holds
  resolved _ _ resumed := nomatch resumed
  proceeds holds stepped := holds.proceeds stepped
  suspends holds _ := holds
  continues holds stepped := by
    obtain ⟨rfl, _, rfl, rfl⟩ := continues_of_step stepped
    simpa [UpdatesApplied, carriedTo, controlWorkflow] using holds

end Steps

/-- No update is lost along a chain in which no signal is delivered with the
first activation of a continued run: a run blocked in its wait holds the left
fold of all the handled signals over the defaults. -/
theorem no_update_lost {trace : List Event} {self : DemoControlWorkflow} {history : Nat}
    (chain : controlWorkflow.Chain none trace (.running .wait self history))
    (started : signalsBeforeRun trace = []) :
    self.getState = applySignals defaultScenarios (signalsHandled trace) := by
  have applied : UpdatesApplied trace .wait self := updatesApplied.of_running chain
  have kept : signalsKept trace = signalsHandled trace :=
    collect_eq_of_nil keptSignal_shares started
  rw [← kept]
  exact applied.1

/-- A scenario enabled in the first activation of a chain and kept by the next run. -/
theorem no_update_lost_of_continued :
    ∃ trace self, controlWorkflow.Chain none trace (.running .wait self 3) ∧
      (successors trace).length = 1 ∧
      self.getState = applySignals defaultScenarios (signalsHandled trace) := by
  have chain := Workflow.Chain.of_replay controlWorkflow 10 none
    [⟨[.setScenario retryStorm true none], none, 3⟩,
      ⟨[.recordAction "terminate" "10:00"], none, 1501⟩, ⟨[], none, 3⟩] rfl
  exact ⟨_, _, chain, rfl, no_update_lost chain rfl⟩

/-- A scenario enabled in the first activation of a continued run stays disabled. -/
theorem update_lost_before_run :
    ∃ trace self, controlWorkflow.Chain none trace (.running .wait self 3) ∧
      self.getState ≠ applySignals defaultScenarios (signalsHandled trace) := by
  have chain := Workflow.Chain.of_replay controlWorkflow 10 none
    [⟨[], none, 3⟩, ⟨[.recordAction "terminate" "10:00"], none, 1501⟩,
      ⟨[.setScenario retryStorm true none], none, 3⟩] rfl
  refine ⟨_, _, chain, ?_⟩
  intro same
  have enabled := congrArg (fun map => (scenarioOf map retryStorm).enabled) same
  exact absurd enabled (by decide)

end WardenDemo.Control
