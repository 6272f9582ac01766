import WardenDemo.Durable.Invariant
import WardenDemo.Durable.Schedule
import WardenDemo.Durable.Trace

/-!
# MenuSyncWorkflow

A timer loop over continue-as-new. Its activities run under the default retry policy, which
retries without limit, so they are only ever resolved as completed. A sync is the same five
commands again and again, for the restaurant it was started for.
-/

namespace WardenDemo.Menu

open Durable

/-- Carried state of a menu sync across continue-as-new. -/
structure MenuSyncState where
  restaurantId : String
  runs : Nat := 0
deriving DecidableEq, Repr

inductive Activity where
  | fetchMenu
  | refreshMenu
  | publishMenu
deriving DecidableEq, Repr

inductive Command where
  | executeActivity (activity : Activity) (restaurantId : String)
  | sleep (seconds : Nat)
  | stampSearchAttributes (restaurantId : String)
deriving DecidableEq, Repr

inductive Pc where
  | call (activity : Activity) (state : MenuSyncState)
  | awaitCall (activity : Activity) (state : MenuSyncState)
  | published (state : MenuSyncState)
  | awaitSleep (state : MenuSyncState)
  | slept (state : MenuSyncState)
deriving DecidableEq, Repr

/-- Where a run goes on once an activity has completed. -/
def Activity.next (state : MenuSyncState) : Activity → Pc
  | .fetchMenu => .call .refreshMenu state
  | .refreshMenu => .call .publishMenu state
  | .publishMenu => .published state

def step (_history : Nat) : Pc → Unit → Action MenuSyncState Unit Pc Command Empty
  | .call activity state, self =>
      .proceed (.awaitCall activity state) self [.executeActivity activity state.restaurantId]
  | .awaitCall _ _, _ => .suspend
  | .published state, self =>
      .proceed (.awaitSleep { state with runs := state.runs + 1 }) self [.sleep 180]
  | .awaitSleep _, _ => .suspend
  | .slept state, _ => .continueAsNew state [.stampSearchAttributes state.restaurantId]

def resume : Resolution → Pc → Unit → Option Pc
  | .activityCompleted, .awaitCall activity state, _ => some (activity.next state)
  | .timerFired, .awaitSleep state, _ => some (.slept state)
  | _, _, _ => none

/-- `MenuSyncWorkflow` as the server runs it; it has no signals. -/
def menuSyncWorkflow : Workflow MenuSyncState Empty Unit Pc Command Empty where
  init := ()
  handle := nofun
  entry := .call .fetchMenu
  step := step
  resume := resume

abbrev Event := Durable.Event MenuSyncState Empty Unit Pc Command Empty
abbrev Config := Durable.Config Unit Pc Empty

/-- The command an event issues. -/
def issuedCommand : Event → Option Command
  | .issued command => some command
  | _ => none

/-- What a sync has asked the server for. -/
def commandsIssued (trace : List Event) : List Command := collect issuedCommand trace

/-- What a run asks for. -/
def rotation (restaurantId : String) : List Command :=
  [.executeActivity .fetchMenu restaurantId, .executeActivity .refreshMenu restaurantId,
    .executeActivity .publishMenu restaurantId, .sleep 180, .stampSearchAttributes restaurantId]

def Pc.state : Pc → MenuSyncState
  | .call _ state | .awaitCall _ state | .published state | .awaitSleep state | .slept state =>
      state

/-- How much of its rotation a run has asked for. -/
def Pc.turned : Pc → Nat
  | .call .fetchMenu _ => 0
  | .awaitCall .fetchMenu _ | .call .refreshMenu _ => 1
  | .awaitCall .refreshMenu _ | .call .publishMenu _ => 2
  | .awaitCall .publishMenu _ | .published _ => 3
  | .awaitSleep _ | .slept _ => 4

/-- The menus a run has published. -/
def Pc.publications : Pc → Nat
  | .awaitSleep _ | .slept _ => 1
  | _ => 0

/-- A sync has gone through a rotation for each of its runs, and counts them. -/
structure Rotating (start : MenuSyncState) (trace : List Event) (pc : Pc) : Prop where
  restaurant : pc.state.restaurantId = start.restaurantId
  runs : pc.state.runs = start.runs + (successors trace).length + pc.publications
  carried : successors trace = (List.range (successors trace).length).map fun run =>
    { start with runs := start.runs + run + 1 }
  issued : commandsIssued trace =
    (List.replicate (successors trace).length (rotation start.restaurantId)).flatten ++
      (rotation start.restaurantId).take pc.turned

section Steps

variable {start : MenuSyncState} {trace events : List Event} {pc next : Pc} {history : Nat}
  {commands : List Command}

theorem commandsIssued_issued (commands : List Command) :
    commandsIssued (commands.map .issued) = commands := by
  induction commands with
  | nil => rfl
  | cons command rest ih => exact congrArg (command :: ·) ih

theorem Rotating.append (rotating : Rotating start trace pc)
    (continued : successors events = []) (issued : commandsIssued events = []) :
    Rotating start (trace ++ events) pc := by
  have successors_eq : successors (trace ++ events) = successors trace :=
    collect_append_of_nil continued trace
  have issued_eq : commandsIssued (trace ++ events) = commandsIssued trace :=
    collect_append_of_nil issued trace
  refine ⟨rotating.restaurant, ?_, ?_, ?_⟩
  · rw [successors_eq]
    exact rotating.runs
  · rw [successors_eq]
    exact rotating.carried
  · rw [successors_eq, issued_eq]
    exact rotating.issued

/-- An answered await has asked for nothing yet. -/
theorem Rotating.resumes {resolution : Resolution} (rotating : Rotating start trace pc)
    (resumed : menuSyncWorkflow.resume resolution pc () = some next) :
    Rotating start trace next := by
  dsimp only [menuSyncWorkflow, resume] at resumed
  split at resumed <;> cases resumed
  · next activity state =>
      cases activity <;>
        exact ⟨rotating.restaurant, rotating.runs, rotating.carried, rotating.issued⟩
  · exact ⟨rotating.restaurant, rotating.runs, rotating.carried, rotating.issued⟩

/-- Going on asks for the next command of the rotation. -/
theorem Rotating.proceeds (rotating : Rotating start trace pc)
    (stepped : menuSyncWorkflow.step history pc () = .proceed next () commands) :
    Rotating start (trace ++ commands.map .issued) next := by
  obtain ⟨restaurant, runs, carried, issued⟩ := rotating
  have continued : successors (trace ++ commands.map .issued) = successors trace :=
    collect_append_issued (fun _ => rfl) trace commands
  have asked : commandsIssued (trace ++ commands.map .issued) =
      commandsIssued trace ++ commands := by
    rw [commandsIssued, collect_append, ← commandsIssued, ← commandsIssued, commandsIssued_issued]
  cases pc with
  | call activity state =>
      cases stepped
      refine ⟨restaurant, continued ▸ runs, continued ▸ carried, ?_⟩
      rw [continued, asked, issued, List.append_assoc]
      cases activity <;> rw [← restaurant] <;> rfl
  | published state =>
      cases stepped
      refine ⟨restaurant, ?_, continued ▸ carried, ?_⟩
      · rw [continued]
        dsimp only [Pc.state, Pc.publications] at runs ⊢
        omega
      · rw [continued, asked, issued, List.append_assoc]
        rfl
  | awaitCall | awaitSleep | slept => cases stepped

/-- The last command ends the rotation, and the next run begins a new one. -/
theorem Rotating.continues {input : MenuSyncState} (rotating : Rotating start trace pc)
    (stepped : menuSyncWorkflow.step history pc () = .continueAsNew input commands) :
    Rotating start (trace ++ (commands.map .issued ++ [.continuedAsNew input]))
      (.call .fetchMenu input) := by
  obtain ⟨restaurant, runs, carried, issued⟩ := rotating
  cases pc with
  | slept state =>
      cases stepped
      have continued : successors (trace ++ ([Command.stampSearchAttributes
          input.restaurantId].map .issued ++ [.continuedAsNew input])) =
          successors trace ++ [input] := collect_append ..
      have asked : commandsIssued (trace ++ ([Command.stampSearchAttributes
          input.restaurantId].map .issued ++ [.continuedAsNew input])) =
          commandsIssued trace ++ [.stampSearchAttributes input.restaurantId] := collect_append ..
      dsimp only [Pc.state, Pc.publications] at restaurant runs
      refine ⟨restaurant, ?_, ?_, ?_⟩
      · rw [continued, List.length_append, List.length_singleton]
        dsimp only [Pc.state, Pc.publications]
        omega
      · have counted : input =
            { start with runs := start.runs + (successors trace).length + 1 } := by
          rw [← runs, ← restaurant]
        rw [continued, List.length_append, List.length_singleton, List.range_succ, List.map_append,
          ← carried, List.map_singleton, ← counted]
      · rw [continued, asked, issued, List.length_append, List.length_singleton,
          List.replicate_succ', List.flatten_append, List.flatten_singleton, restaurant,
          List.append_assoc, List.append_assoc]
        rfl
  | call | awaitCall | published | awaitSleep => cases stepped

end Steps

/-- What a sync has asked for, and the state it carries, wherever it is. -/
def rotationInvariant (start : MenuSyncState) : menuSyncWorkflow.Invariant start where
  Idle trace pc _ _ := Rotating start trace pc
  Busy trace pc _ _ := Rotating start trace pc
  initial := ⟨rfl, rfl, rfl, rfl⟩
  handled signal := signal.elim
  advanced rotating _ := rotating.append rfl rfl
  resolved rotating _ resumed := by
    rw [List.append_assoc]
    exact (rotating.resumes resumed).append rfl rfl
  proceeds rotating stepped := rotating.proceeds stepped
  suspends rotating _ := rotating
  continues rotating stepped := rotating.continues stepped

/-- A menu sync never closes. All it ever asks for is the same rotation, over and over and
for the restaurant it was started for; and the runs it carries count the menus it has
published. -/
theorem menu_sync_rotates {start : MenuSyncState} {trace : List Event} {config : Config}
    (chain : menuSyncWorkflow.Chain start trace config) :
    ∃ pc history, config = .running pc () history ∧
      commandsIssued trace =
        (List.replicate (successors trace).length (rotation start.restaurantId)).flatten ++
          (rotation start.restaurantId).take pc.turned ∧
      successors trace = (List.range (successors trace).length).map (fun run =>
        { start with runs := start.runs + run + 1 }) ∧
      pc.state.runs = start.runs + (successors trace).length + pc.publications := by
  have reached := (rotationInvariant start).of_chain chain
  cases config with
  | running pc self history =>
      have rotating : Rotating start trace pc := reached
      exact ⟨pc, history, rfl, rotating.issued, rotating.carried, rotating.runs⟩
  | completed result => exact result.elim
  | failed =>
      obtain ⟨_, pc, _, _, _, _, fails⟩ := reached
      cases pc <;> cases fails

/-- A sync in its second run, which has fetched the menu. -/
theorem menu_sync_rotates_of_two :
    ∃ trace pc history, menuSyncWorkflow.Chain { restaurantId := "rest-1" } trace
        (.running pc () history) ∧
      pc.state.runs = 1 ∧ (commandsIssued trace).length = 7 := by
  have chain := Workflow.Chain.of_replay menuSyncWorkflow 10 { restaurantId := "rest-1" }
    [⟨[], none, 3⟩, ⟨[], some .activityCompleted, 9⟩, ⟨[], some .activityCompleted, 15⟩,
      ⟨[], some .activityCompleted, 21⟩, ⟨[], some .timerFired, 26⟩, ⟨[], none, 3⟩,
      ⟨[], some .activityCompleted, 9⟩] rfl
  obtain ⟨pc, history, same, issued, _, runs⟩ := menu_sync_rotates chain
  cases same
  exact ⟨_, _, _, chain, runs, congrArg List.length issued⟩

end WardenDemo.Menu
