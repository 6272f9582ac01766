import WardenDemo.Control.Cache
import WardenDemo.Control.Updates
import WardenDemo.Durable.Readers
import WardenDemo.Traffic.Survival

/-!
# The control plane

The control workflow, the workers with their caches, and the generator. Nothing but
queries connects them: a process asks now and then, some queries go unanswered, and
processes are restarted at any time.

A run of the plane is a writer of the kept updates and readers of them. Each process
acts on the map that a prefix of the updates leads to.
-/

namespace WardenDemo.Control

open Durable Traffic

/-- The processes which copy the scenario map. -/
inductive Observer where
  | worker (name : String)
  | generator
deriving DecidableEq, Repr

/-- The chain of the control workflow, the caches of the worker processes, and the
generator process, unless it is down. -/
structure Plane where
  trace : List Event := []
  control : Config := controlWorkflow.fresh none
  caches : String → Cache := fun _ => {}
  generator : Option Process := none

namespace Plane

inductive Label where
  | control (events : List Event)
  | refresh (worker : String) (queried : Option ScenarioMap)
  | restart (worker : String)
  | start (queried : Option ScenarioMap) (replies : String → Reply)
  | turn (turn : Turn)

/-- The answer to a query, by a run that has been started. -/
def answer (self : Plane) : Option ScenarioMap :=
  match self.control with
  | .running .wait object _ => some object.getState
  | _ => none

/-- A query raises or is answered. -/
def Answers (self : Plane) (queried : Option ScenarioMap) : Prop :=
  queried = none ∨ queried = self.answer

/-- One step of one of the parties. The generator asks once before it ensures the
entities and then runs its loops, and an exception which reaches the gather ends it. -/
inductive Step (numerals : Json.Numerals) (config : Traffic.Config) (self : Plane) :
    Label → Plane → Prop where
  | control {activation : Activation Signal} {events : List Event} {control : Config}
      (activated : controlWorkflow.Activate activation self.control events control) :
      Step numerals config self (.control events)
        { self with trace := self.trace ++ events, control }
  | refresh (worker : String) {queried : Option ScenarioMap} (asked : self.Answers queried) :
      Step numerals config self (.refresh worker queried)
        { self with
          caches := Function.update self.caches worker
            ((self.caches worker).refreshed queried) }
  | restart (worker : String) :
      Step numerals config self (.restart worker)
        { self with caches := Function.update self.caches worker {} }
  | start {queried : Option ScenarioMap} (replies : String → Reply)
      (asked : self.Answers queried) :
      Step numerals config self (.start queried replies)
        { self with
          generator :=
            if (ensureEntities replies).isOk then
              some { toGenerator := ({} : Generator).refreshScenarios queried }
            else none }
  | turn {process : Process} (turn : Turn) (running : self.generator = some process)
      (asked : self.Answers turn.queried) :
      Step numerals config self (.turn turn)
        { self with generator := (process.turn numerals config turn).toOption }

/-- The map a process acts on. -/
def view (self : Plane) : Observer → ScenarioMap
  | .worker name => (self.caches name).scenarios
  | .generator => (self.generator.map fun process => process.scenarios).getD ∅

/-- The map a process acts on before its first answered query. -/
def blank : Observer → ScenarioMap
  | .worker _ => defaultScenarios
  | .generator => ∅

/-- What an answered query is to a reader of the updates. -/
def catchUp (observer : Observer) (queried : Option ScenarioMap) :
    List (Readers.Label Observer Signal) :=
  if queried.isSome then [.catchUp observer] else []

/-- What a step is to the readers of the updates, by the plane it leads to. -/
def Label.reads (after : Plane) : Label → List (Readers.Label Observer Signal)
  | .control events => [.publish (signalsKept events)]
  | .refresh worker queried => catchUp (.worker worker) queried
  | .restart worker => [.forget (.worker worker)]
  | .start queried _ =>
      .forget .generator ::
        if after.generator.isSome then catchUp .generator queried else []
  | .turn taken =>
      if after.generator.isSome then catchUp .generator taken.queried
      else [.forget .generator]

/-- Steps in a row, and what they are to the readers. -/
inductive Run (numerals : Json.Numerals) (config : Traffic.Config) (start : Plane) :
    List Label → List (Readers.Label Observer Signal) → Plane → Prop where
  | none : Run numerals config start [] [] start
  | step {labels : List Label} {reads : List (Readers.Label Observer Signal)} {label : Label}
      {plane after : Plane} (ran : Run numerals config start labels reads plane)
      (stepped : plane.Step numerals config label after) :
      Run numerals config start (labels ++ [label]) (reads ++ label.reads after) after

/-- The readers of the updates which a plane stands for. -/
structure Tracks (plane : Plane) (readers : Readers Observer Signal) : Prop where
  chain : controlWorkflow.Chain none plane.trace plane.control
  log : readers.log = signalsKept plane.trace
  sound : readers.Sound
  views : ∀ observer,
    plane.view observer = readers.view (applySignals defaultScenarios) blank observer

section Simulation

variable {numerals : Json.Numerals} {config : Traffic.Config} {plane after : Plane}
  {readers : Readers Observer Signal} {label : Label}

theorem signalsKept_append (trace events : List Event) :
    signalsKept (trace ++ events) = signalsKept trace ++ signalsKept events :=
  collect_append ..

/-- A query is answered with the value of all the kept updates. -/
theorem answer_eq (chain : controlWorkflow.Chain none plane.trace plane.control)
    {map : ScenarioMap} (answered : plane.answer = some map) :
    map = applySignals defaultScenarios (signalsKept plane.trace) := by
  unfold answer at answered
  split at answered
  · next object history here =>
      rw [here] at chain
      cases answered
      exact (updatesApplied.of_running chain).1
  · cases answered

theorem tracks_initial : Tracks {} ({} : Readers Observer Signal) where
  chain := .start
  log := rfl
  sound _ _ seen := nomatch seen
  views observer := by cases observer <;> rfl

/-- A reader which looks at the log now holds what the query was answered with. -/
theorem view_catchUp (tracks : Tracks plane readers) (observer : Observer)
    {queried : Option ScenarioMap} (asked : plane.Answers queried) :
    (readers.run (catchUp observer queried)).view (applySignals defaultScenarios) blank
        observer = queried.getD (plane.view observer) := by
  cases queried with
  | none => exact (tracks.views observer).symm
  | some map =>
      have answered : plane.answer = some map := (asked.resolve_left nofun).symm
      have value := answer_eq tracks.chain answered
      change (readers.step (.catchUp observer)).view _ _ observer = map
      rw [Readers.view_of_seen Readers.seen_catchUp, Readers.log_step, value, ← tracks.log]
      simp [Readers.Label.updates]

/-- A step in which one process turns to the updates, or forgets them. -/
theorem Tracks.turned (tracks : Tracks plane readers) {observer : Observer}
    {reads : List (Readers.Label Observer Signal)}
    (mine : ∀ read ∈ reads, read.reader = some observer)
    (control : after.trace = plane.trace ∧ after.control = plane.control)
    (others : ∀ other, other ≠ observer → after.view other = plane.view other)
    (here : after.view observer =
      (readers.run reads).view (applySignals defaultScenarios) blank observer) :
    Tracks after (readers.run reads) where
  chain := by
    rw [control.1, control.2]
    exact tracks.chain
  log := by
    rw [Readers.log_run_of_readers fun read mem => by rw [mine read mem]; rfl, control.1]
    exact tracks.log
  sound := tracks.sound.run reads
  views other := by
    by_cases same : other = observer
    · rw [same, here]
    · rw [others other same, tracks.views other, Readers.view_run_of_not_turns tracks.sound]
      rintro ⟨read, mem, turned⟩
      exact same (Option.some.inj (turned.symm.trans (mine read mem)))

theorem reader_catchUp {observer : Observer} {queried : Option ScenarioMap} :
    ∀ read ∈ catchUp observer queried, read.reader = some observer := by
  intro read mem
  unfold catchUp at mem
  split at mem
  · rw [List.mem_singleton.mp mem]
    rfl
  · cases mem

theorem view_forget (observer : Observer) :
    (readers.run [.forget observer]).view (applySignals defaultScenarios) blank observer =
      blank observer :=
  Readers.view_of_unseen Readers.seen_forget

theorem reader_forget {observer : Observer} :
    ∀ read ∈ ([.forget observer] : List (Readers.Label Observer Signal)),
      read.reader = some observer := by
  intro read mem
  rw [List.mem_singleton.mp mem]
  rfl

section Turned

variable {reads : List (Readers.Label Observer Signal)}

/-- Only the cache of one worker changes. -/
theorem Tracks.cached (tracks : Tracks plane readers) {worker : String} {cache : Cache}
    (mine : ∀ read ∈ reads, read.reader = some (.worker worker))
    (here : cache.scenarios = (readers.run reads).view (applySignals defaultScenarios) blank
      (.worker worker)) :
    Tracks { plane with caches := Function.update plane.caches worker cache }
      (readers.run reads) := by
  refine tracks.turned mine ⟨rfl, rfl⟩ ?_ ?_
  · intro other differs
    cases other with
    | generator => rfl
    | worker name =>
        have apart : name ≠ worker := fun same => differs (congrArg Observer.worker same)
        simp only [view, Function.update_of_ne apart]
  · rw [← here]
    simp only [view, Function.update_self]

/-- Only the generator changes. -/
theorem Tracks.generated (tracks : Tracks plane readers) {generator : Option Process}
    (mine : ∀ read ∈ reads, read.reader = some .generator)
    (here : (generator.map fun process => process.scenarios).getD ∅ =
      (readers.run reads).view (applySignals defaultScenarios) blank .generator) :
    Tracks { plane with generator } (readers.run reads) := by
  refine tracks.turned mine ⟨rfl, rfl⟩ ?_ here
  intro other differs
  cases other with
  | generator => exact absurd rfl differs
  | worker name => rfl

end Turned

/-- Each step of the plane is what its readers do. -/
theorem Tracks.step (tracks : Tracks plane readers)
    (stepped : plane.Step numerals config label after) :
    Tracks after (readers.run (label.reads after)) := by
  cases stepped with
  | control activated =>
      exact {
        chain := .activate tracks.chain activated
        log := by
          rw [Readers.log_run, tracks.log, signalsKept_append]
          simp [Label.reads, Readers.published, Readers.Label.updates]
        sound := tracks.sound.run _
        views := fun observer => by
          rw [Readers.view_run_of_not_turns tracks.sound, ← tracks.views observer]
          · cases observer <;> rfl
          · simp [Label.reads, Readers.Turns, Readers.Label.reader] }
  | @refresh worker queried asked =>
      refine tracks.cached reader_catchUp (Eq.trans ?_ (view_catchUp tracks _ asked).symm)
      cases queried <;> rfl
  | restart worker =>
      exact tracks.cached reader_forget (view_forget (.worker worker)).symm
  | @start queried replies asked =>
      have down : Tracks { plane with generator := none } (readers.run [.forget .generator]) :=
        tracks.generated reader_forget (view_forget .generator).symm
      by_cases ensured : (ensureEntities replies).isOk = true
      · simp only [if_pos ensured, Label.reads, Option.isSome_some, if_true]
        refine down.generated reader_catchUp (Eq.trans ?_ (view_catchUp down _ asked).symm)
        cases queried <;> rfl
      · simp only [if_neg ensured, Label.reads, Option.isSome_none, Bool.false_eq_true, if_false]
        exact down
  | @turn process turn running asked =>
      cases turned : process.turn numerals config turn with
      | error raised =>
          exact tracks.generated reader_forget (view_forget .generator).symm
      | ok onward =>
          refine tracks.generated reader_catchUp (Eq.trans ?_ (view_catchUp tracks _ asked).symm)
          simp [Except.toOption, view, running, scenarios_turn turned]

variable {labels labels' : List Label} {reads reads' : List (Readers.Label Observer Signal)}

/-- Each run of the plane is what its readers do. -/
theorem Tracks.run (tracks : Tracks plane readers)
    (ran : Run numerals config plane labels reads after) :
    Tracks after (readers.run reads) := by
  induction ran with
  | none => exact tracks
  | step _ stepped ih =>
      rw [Readers.run_append]
      exact ih.step stepped

/-- Every process acts on the map that some first updates lead to, or on the one it
started with. As the plane runs on, a process which is not restarted never acts on fewer
updates than before, and one which is answered or restarted acts on all there were, or on
the map it started with until it is answered. -/
theorem processes_read_forward (ran : Run numerals config {} labels reads plane)
    (onward : Run numerals config plane labels' reads' after) :
    ∃ earlier later : Readers Observer Signal, Tracks plane earlier ∧ Tracks after later ∧
      (∀ observer, .forget observer ∉ reads' → ∀ length, earlier.seen observer = some length →
        ∃ further, length ≤ further ∧ later.seen observer = some further) ∧
      ∀ observer, Readers.Turns observer reads' →
        later.SeenTo (signalsKept plane.trace).length observer := by
  have tracks := tracks_initial.run ran
  refine ⟨_, _, tracks, tracks.run onward, ?_, ?_⟩
  · intro observer kept length seen
    exact Readers.seen_run_of_kept tracks.sound seen kept
  · intro observer turns
    apply Readers.seenTo_run_of_turns turns
    rw [tracks.log]

theorem Run.begin (_ : Run numerals config plane labels reads after) :
    Run numerals config after [] [] after :=
  .none

/-- Run a schedule of the control workflow within a plane. -/
theorem Run.activate (ran : Run numerals config plane labels reads after)
    (activation : Activation Signal) {events : List Event} {control : Config}
    (computed : controlWorkflow.activateWithin 10 activation after.control =
      some (events, control)) :
    Run numerals config plane (labels ++ [.control events])
      (reads ++ [.publish (signalsKept events)])
      { after with trace := after.trace ++ events, control } :=
  .step ran (.control (.of_within computed))

/-- A worker which asked before and after the storm was enabled; other updates were kept
before it first asked, and between. -/
theorem processes_read_forward_of_worker :
    ∃ (plane after : Plane) (earlier later : Readers Observer Signal),
      Tracks plane earlier ∧ Tracks after later ∧
      (signalsKept plane.trace).length = 2 ∧
      (plane.caches "order-tq").isEnabled fanoutStorm = true ∧
      (plane.caches "order-tq").isEnabled retryStorm = false ∧
      (after.caches "order-tq").isEnabled retryStorm = true ∧
      later.SeenTo (signalsKept plane.trace).length (.worker "order-tq") := by
  have numerals : Json.Numerals := ⟨⟨fun _ => none, fun _ => ""⟩, fun _ => none⟩
  have idle : Run numerals {} {} [] [] {} := .none
  have opened := idle.activate ⟨[], none, 3⟩ rfl
  have fanned := opened.activate ⟨[.setScenario fanoutStorm true none], none, 7⟩ rfl
  have asked := fanned.step (.refresh "order-tq" (.inr rfl))
  have recorded := asked.activate ⟨[.recordAction "terminate" "10:00"], none, 11⟩ rfl
  have enabled := recorded.begin.activate ⟨[.setScenario retryStorm true none], none, 15⟩ rfl
  have again := enabled.step (.refresh "order-tq" (.inr rfl))
  obtain ⟨earlier, later, before, after, -, caught⟩ := processes_read_forward recorded again
  refine ⟨_, _, earlier, later, before, after, rfl, rfl, rfl, rfl, caught _ ?_⟩
  exact ⟨_, List.mem_append_right _ List.mem_cons_self, rfl⟩

end Simulation

end Plane

end WardenDemo.Control
