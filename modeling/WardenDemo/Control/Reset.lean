import WardenDemo.Control.Plane
import WardenDemo.Order.Activities

/-!
# Back to green

While every scenario is disabled and nothing enables one, all processes which ask the
control workflow, or are restarted, do what a healthy deployment does: payments are
authorised at once, orders carry no fault, batches are ordinary, and the relay only
resets regions.
-/

namespace WardenDemo.Control

open Durable WardenDemo.Order Traffic

/-- Every scenario is disabled. -/
def Green (map : ScenarioMap) : Prop := ∀ name, (scenarioOf map name).enabled = false

/-- A signal which turns a scenario on. -/
def Signal.Enables : Signal → Prop
  | .setScenario _ enabled _ => enabled = true
  | .resetAll | .recordAction _ _ => False

section Maps

variable {map : ScenarioMap}

theorem green_defaultScenarios : Green defaultScenarios := scenarioOf_defaultScenarios_enabled

theorem green_empty : Green ∅ := fun _ => rfl

theorem Green.insert (green : Green map) {name : String} {scenario : Scenario}
    (disabled : scenario.enabled = false) : Green (map.insert name scenario) := by
  intro other
  rw [scenarioOf, Dict.lookup_insert]
  split
  · exact disabled
  · exact green other

theorem Green.applySignal (green : Green map) {signal : Signal} (quiet : ¬ signal.Enables) :
    Green (applySignal map signal) := by
  cases signal with
  | setScenario name enabled params => exact green.insert (Bool.eq_false_of_not_eq_true quiet)
  | resetAll => exact green_defaultScenarios
  | recordAction name moment => exact green.insert (green actions)

theorem Green.applySignals (green : Green map) {signals : List Signal}
    (quiet : ∀ signal ∈ signals, ¬ signal.Enables) : Green (applySignals map signals) := by
  induction signals generalizing map with
  | nil => exact green
  | cons signal rest ih =>
      obtain ⟨here, later⟩ := List.forall_mem_cons.mp quiet
      exact ih (green.applySignal here) later

theorem applySignals_append_all (first second : List Signal) :
    Control.applySignals map (first ++ second) =
      Control.applySignals (Control.applySignals map first) second :=
  List.foldl_append

end Maps

/-- A kept reset leaves nothing enabled, until something is enabled again. -/
theorem green_of_reset {before later : List Event} {pc pc' : Pc}
    {object object' : DemoControlWorkflow} {history : Nat}
    (chain : controlWorkflow.Chain none (before ++ .handled pc' object' .resetAll :: later)
      (.running pc object history))
    (kept : carriedTo pc' = none) (quiet : ∀ signal ∈ signalsKept later, ¬ signal.Enables) :
    Green (heldScenarios pc object) := by
  have held := (updatesApplied.of_running chain).1
  have signals : signalsKept (before ++ .handled pc' object' .resetAll :: later) =
      (signalsKept before ++ [.resetAll]) ++ signalsKept later := by
    simp [signalsKept, keptSignal, kept]
  rw [held, signals, applySignals_append_all, applySignals_append]
  exact green_defaultScenarios.applySignals quiet

namespace Plane

/-- What a process does in a healthy deployment. -/
def Healthy (plane : Plane) : Observer → Prop
  | .worker name => ∀ (numerals : Json.Numerals) (inp : OrderInput) (host : Host),
      host.switch = plane.caches name → host.lost = false →
      Activity.authorizePayment.attempt numerals inp host = .ok (.str s!"auth-{inp.orderId}")
  | .generator => ∀ process, plane.generator = some process →
      ∀ (numerals : Json.Numerals) (config : Traffic.Config),
        (∀ draws, process.orderStart numerals config draws =
          .ok ({ orderId := draws.orderId
                 region := draws.region
                 restaurantId := draws.restaurant
                 trackStages := config.orderStageTracking }, none)) ∧
        (∀ batchId children, process.batchInput numerals batchId children =
          .ok { batchId, mode := "normal", children }) ∧
        process.controlTick numerals.toText =
          { reset := if process.degradedRegion.truthy then
              some (Generator.resetRegion numerals.toText process.degradedRegion) else none
            after := some { process.toGenerator with
              degradedRegion := if process.degradedRegion.truthy then .null
                else process.degradedRegion } }

section Views

variable {plane : Plane}

/-- A process which sees nothing enabled is healthy. -/
theorem healthy_of_green {observer : Observer} (green : Green (plane.view observer)) :
    plane.Healthy observer := by
  cases observer with
  | worker name =>
      rintro numerals inp host seen up
      apply authorizePayment_of_serves
      refine ⟨up, fun _ storm => ?_⟩
      rw [seen] at storm
      exact absurd storm (Bool.eq_false_iff.mp (green retryStorm))
  | generator =>
      intro process running numerals config
      have disabled : ∀ name, process.enabled name = false := by
        intro name
        have seen : plane.view .generator = process.scenarios := by simp [view, running]
        rw [seen] at green
        exact green name
      refine ⟨fun draws => ?_, fun batchId children => ?_, ?_⟩
      · simp [Process.orderStart, Generator.strikes, disabled, bind, Except.bind, pure,
          Except.pure]
      · simp [Process.batchInput, disabled]
      · unfold Generator.controlTick
        simp only [disabled, Bool.false_eq_true, if_false]
        split <;> rfl

end Views

/-- The signals the control workflow handles along a run of the plane. -/
def signalsIn (labels : List Label) : List Signal :=
  labels.flatMap fun label =>
    match label with
    | .control events => signalsHandled events
    | _ => []

section Runs

variable {numerals : Json.Numerals} {config : Traffic.Config} {plane after : Plane}
  {labels labels' : List Label} {reads reads' : List (Readers.Label Observer Signal)}

theorem published_catchUp (observer : Observer) (queried : Option ScenarioMap) :
    Readers.published (catchUp observer queried) = [] := by
  unfold catchUp
  split <;> rfl

/-- Only the control workflow publishes, and only signals it has handled. -/
theorem mem_signalsIn_of_published {label : Label} {signal : Signal}
    (mem : signal ∈ Readers.published (label.reads after)) : signal ∈ signalsIn [label] := by
  cases label with
  | control events =>
      simp only [Label.reads, Readers.published, List.flatMap_singleton, Readers.Label.updates]
        at mem
      simp only [signalsIn, List.flatMap_singleton]
      exact (collect_sublist events fun event =>
        (keptSignal_shares event).symm.imp And.left And.left).subset mem
  | refresh worker queried =>
      rw [Label.reads, published_catchUp] at mem
      cases mem
  | restart worker => cases mem
  | start queried replies =>
      rw [Label.reads] at mem
      split at mem
      · exact absurd mem (by
          rw [Readers.published, List.flatMap_cons, ← Readers.published, published_catchUp]
          exact List.not_mem_nil)
      · cases mem
  | turn taken =>
      rw [Label.reads] at mem
      split at mem
      · rw [published_catchUp] at mem
        cases mem
      · cases mem

theorem published_append (first second : List (Readers.Label Observer Signal)) :
    Readers.published (first ++ second) =
      Readers.published first ++ Readers.published second :=
  List.flatMap_append

theorem Run.mem_signalsIn (ran : Run numerals config plane labels reads after) {signal : Signal}
    (mem : signal ∈ Readers.published reads) : signal ∈ signalsIn labels := by
  induction ran with
  | none => cases mem
  | step _ _ ih =>
      rw [published_append, List.mem_append] at mem
      rw [signalsIn, List.flatMap_append, ← signalsIn, ← signalsIn, List.mem_append]
      exact mem.imp ih mem_signalsIn_of_published

/-- Once the control workflow holds a map with everything disabled, and until it handles a
signal which enables something, it answers with such maps; and every process which was
answered or restarted in the meantime is healthy. -/
theorem green_reaches_everyone {pc : Pc} {object : DemoControlWorkflow} {history : Nat}
    (ran : Run numerals config {} labels reads plane)
    (waiting : plane.control = .running pc object history)
    (green : Green (heldScenarios pc object))
    (onward : Run numerals config plane labels' reads' after)
    (quiet : ∀ signal ∈ signalsIn labels', ¬ signal.Enables) :
    (∀ map, after.answer = some map → Green map) ∧
      ∀ observer, Readers.Turns observer reads' → after.Healthy observer := by
  have before := tracks_initial.run ran
  have now := before.run onward
  have chain := before.chain
  rw [waiting] at chain
  have held : Green (applySignals defaultScenarios (signalsKept plane.trace)) := by
    have value := (updatesApplied.of_running chain).1
    rwa [← value]
  have updates : signalsKept after.trace = signalsKept plane.trace ++ Readers.published reads' := by
    rw [← now.log, ← before.log, Readers.log_run]
  have values : ∀ length, (signalsKept plane.trace).length ≤ length →
      Green (applySignals defaultScenarios ((signalsKept after.trace).take length)) := by
    intro length beyond
    rw [updates, List.take_append, List.take_of_length_le beyond, applySignals_append_all]
    apply held.applySignals
    intro signal mem
    exact quiet signal (onward.mem_signalsIn (List.mem_of_mem_take mem))
  refine ⟨?_, ?_⟩
  · intro map answered
    have all := values (signalsKept after.trace).length (by
      rw [updates, List.length_append]
      exact Nat.le_add_right _ _)
    rwa [List.take_length, ← answer_eq now.chain answered] at all
  · intro observer turns
    apply healthy_of_green
    rw [now.views observer]
    apply Readers.holds_of_seenTo now.sound
    · exact Readers.seenTo_run_of_turns turns (Nat.le_of_eq (congrArg List.length before.log.symm))
    · cases observer with
      | worker name => exact green_defaultScenarios
      | generator => exact green_empty
    · intro length beyond _
      rw [now.log]
      exact values length beyond

/-- A worker which has seen the storm, and asks again once it has been reset. -/
theorem green_reaches_everyone_of_reset :
    ∃ (numerals : Json.Numerals) (plane after : Plane) (labels : List Label)
      (reads : List (Readers.Label Observer Signal)),
      Run numerals {} plane labels reads after ∧
      (plane.caches "order-tq").isEnabled retryStorm = true ∧
      after.Healthy (.worker "order-tq") := by
  have numerals : Json.Numerals := ⟨⟨fun _ => none, fun _ => ""⟩, fun _ => none⟩
  have idle : Run numerals {} {} [] [] {} := .none
  have opened := idle.activate ⟨[], none, 3⟩ rfl
  have enabled := opened.activate ⟨[.setScenario retryStorm true none], none, 7⟩ rfl
  have asked := enabled.step (.refresh "order-tq" (.inr rfl))
  have reset := asked.activate ⟨[.resetAll], none, 11⟩ rfl
  have again := reset.begin.step (.refresh "order-tq" (.inr rfl))
  have green := green_of_reset (tracks_initial.run reset).chain rfl fun _ mem => nomatch mem
  have healthy := (green_reaches_everyone reset rfl green again fun _ mem => nomatch mem).2
  exact ⟨numerals, _, _, _, _, again, rfl,
    healthy (.worker "order-tq") ⟨_, List.mem_cons_self, rfl⟩⟩

end Runs

end Plane

end WardenDemo.Control
