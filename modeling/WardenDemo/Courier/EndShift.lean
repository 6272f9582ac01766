import WardenDemo.Courier.Transitions
import WardenDemo.Durable.Invariant
import WardenDemo.Durable.Schedule
import WardenDemo.Durable.Trace

/-!
# The end of a shift

`_end` is tested before the drain, and the history after it. A shift which ends
while it drains therefore returns, unless the drain leaves a history so long
that the run continues as new first; the next run knows nothing of the end.
-/

namespace WardenDemo.Courier

open Durable

def ending : Event → Option Unit
  | .handled _ _ .endShift => some ()
  | _ => none

/-- The `end_shift` signals a chain has handled. -/
def endings (trace : List Event) : List Unit := collect ending trace

/-- The runs started by continue-as-new after an `end_shift` was handled. -/
def lateSuccessors (trace : List Event) : List CourierState :=
  successors (since ending trace)

/-- The history of an activation which ends the drain of an ended shift too late. -/
def endOverrun : Event → Option Nat
  | .advanced .drain self history =>
      if self.ended = true ∧ self.assignments = [] ∧ history > maxHistory then some history
      else none
  | _ => none

def overruns (trace : List Event) : List Nat := collect endOverrun trace

/-- Where an activation may find a shift. -/
def Resting : Pc → Prop
  | .entry _ | .wait | .awaitAccept _ | .awaitReport => True
  | .checkEnd | .drain | .accepted | .checkHistory => False

/-- An ended shift on its way to continue as new. -/
def Overrunning : Pc → CourierShiftWorkflow → Nat → Prop
  | .drain, self, history =>
      self.ended = true ∧ self.assignments = [] ∧ history > maxHistory
  | .checkHistory, self, history => self.ended = true ∧ history > maxHistory
  | _, _, _ => False

/-- No run came after the end of the shift, and `_end` tells whether it has ended. -/
def EndKnown (trace : List Event) (self : CourierShiftWorkflow) : Prop :=
  lateSuccessors trace = [] ∧ (self.ended = true ↔ endings trace ≠ [])

/-- A run which came after the end of the shift, for the one reason there is. -/
def EndLost (trace : List Event) : Prop :=
  lateSuccessors trace ≠ [] ∧ overruns trace ≠ []

def EndIdle (trace : List Event) (pc : Pc) (self : CourierShiftWorkflow) : Prop :=
  (Resting pc ∧ EndKnown trace self ∧ overruns trace = []) ∨ EndLost trace

def EndBusy (trace : List Event) (pc : Pc) (self : CourierShiftWorkflow) (history : Nat) :
    Prop :=
  (EndKnown trace self ∧ (overruns trace ≠ [] ↔ Overrunning pc self history)) ∨
    EndLost trace

section Steps

attribute [local simp] endings ending overruns endOverrun successors successor

variable {trace events : List Event} {pc next : Pc} {self self' : CourierShiftWorkflow}
  {history : Nat} {commands : List Command}

theorem EndLost.append (lost : EndLost trace) (events : List Event) :
    EndLost (trace ++ events) :=
  ⟨collect_since_append_ne_nil lost.1 events, collect_append_ne_nil lost.2 events⟩

/-- Events which neither end the shift nor start a run leave it as known as it was. -/
theorem EndKnown.append (known : EndKnown trace self) (single : successors events = [])
    (silent : endings events = []) (same : self'.ended = self.ended) :
    EndKnown (trace ++ events) self' := by
  constructor
  · exact (collect_since_append single trace).trans known.1
  · simp only [endings] at silent
    simpa [same, silent] using known.2

theorem EndIdle.handled (holds : EndIdle trace pc self) (signal : Signal) :
    EndIdle (trace ++ [.handled pc self signal]) pc (self.handle signal) := by
  rcases holds with ⟨resting, known, onTime⟩ | lost
  · refine Or.inl ⟨resting, ?_, by simpa using onTime⟩
    cases signal with
    | endShift =>
        constructor
        · exact (collect_since_append rfl trace).trans known.1
        · simp [CourierShiftWorkflow.handle]
    | locationPing | assignment _ => exact known.append rfl rfl rfl
  · exact Or.inr (lost.append _)

theorem EndIdle.advanced (holds : EndIdle trace pc self) :
    EndBusy (trace ++ [.advanced pc self history]) pc self history := by
  rcases holds with ⟨resting, known, onTime⟩ | lost
  · refine Or.inl ⟨known.append rfl rfl rfl, ?_⟩
    simp only [overruns] at onTime
    cases pc with
    | checkEnd | drain | accepted | checkHistory => exact absurd resting id
    | _ => simp [Overrunning, onTime]
  · exact Or.inr (lost.append _)

theorem EndIdle.resumed (holds : EndIdle trace pc self) {resolution : Resolution}
    (resumed : Resumes pc next) :
    EndBusy (trace ++ [.resolved pc resolution] ++ [.advanced next self history])
      next self history := by
  rw [List.append_assoc]
  rcases holds with ⟨_, known, onTime⟩ | lost
  · refine Or.inl ⟨known.append rfl rfl rfl, ?_⟩
    simp only [overruns] at onTime
    cases resumed with
    | accepted => simp [Overrunning, onTime]
    | reported => simp [Overrunning, onTime]
  · exact Or.inr (lost.append _)

theorem Overrunning.proceeds_iff (stepped : Proceeds history pc self next self' commands) :
    Overrunning next self' history ↔ Overrunning pc self history := by
  cases stepped with
  | drained empty => simp [Overrunning, empty]
  | accepts head => simp [Overrunning, head]
  | stays short => simp [Overrunning, Nat.not_lt_of_le short]
  | goesOn on => simp [Overrunning, on]
  | _ => exact Iff.rfl

theorem EndBusy.proceeds (holds : EndBusy trace pc self history)
    (stepped : Proceeds history pc self next self' commands) :
    EndBusy (trace ++ commands.map .issued) next self' history := by
  rcases holds with ⟨known, overran⟩ | lost
  · have same : self'.ended = self.ended := by cases stepped <;> rfl
    have silent : endings (commands.map .issued) = [] := by cases stepped <;> rfl
    have quiet : overruns (trace ++ commands.map .issued) = overruns trace := by
      cases stepped <;> simp
    refine Or.inl ⟨known.append (by cases stepped <;> rfl) silent same, ?_⟩
    rw [quiet, Overrunning.proceeds_iff stepped]
    exact overran
  · exact Or.inr (lost.append _)

theorem EndBusy.suspends (holds : EndBusy trace pc self history)
    (suspended : CourierShiftWorkflow.step history pc self = .suspend) :
    EndIdle trace pc self := by
  rcases holds with ⟨known, overran⟩ | lost
  · rcases suspends_of_step suspended with ⟨rfl, _⟩ | ⟨_, rfl⟩ | rfl
    all_goals exact Or.inl ⟨trivial, known, Classical.not_not.mp overran.mp⟩
  · exact Or.inr lost

/-- Continuing as new loses the end of the shift, if it has ended. -/
theorem EndBusy.continues (holds : EndBusy trace .checkHistory self history)
    (long : history > maxHistory) {state : CourierState} {command : Command} :
    EndIdle (trace ++ [.issued command, .continuedAsNew state]) (.entry state) {} := by
  rcases holds with ⟨⟨onTime, ended⟩, overran⟩ | lost
  · by_cases closed : self.ended = true
    · have happened : endings trace ≠ [] := ended.mp closed
      have overrun : overruns trace ≠ [] := overran.mpr ⟨closed, long⟩
      refine Or.inr ⟨?_, ?_⟩
      · rw [lateSuccessors, since_append_of_ne_nil happened]
        simp
      · simpa using overrun
    · have none : endings trace = [] := Classical.not_not.mp fun some => closed (ended.mpr some)
      have quiet : overruns trace = [] := by
        refine Classical.not_not.mp fun some => closed ?_
        exact (overran.mp some).1
      refine Or.inl ⟨trivial, ⟨?_, ?_⟩, by simpa using quiet⟩
      · rw [lateSuccessors, since_append_of_nil none]
        rfl
      · simp only [endings] at none
        simp [none]
  · exact Or.inr (lost.append _)

/-- What is known of the end of the shift along every chain. -/
def endTracked (start : CourierState) : courierWorkflow.Invariant start where
  Idle trace pc self _ := EndIdle trace pc self
  Busy trace pc self history := EndBusy trace pc self history
  initial := Or.inl ⟨trivial, ⟨rfl, by simp [courierWorkflow]⟩, rfl⟩
  handled signal holds := holds.handled signal
  advanced holds _ := holds.advanced
  resolved holds _ resumed := holds.resumed (resumes_of_resume resumed)
  proceeds holds stepped := holds.proceeds (proceeds_of_step stepped)
  suspends holds suspended := holds.suspends suspended
  continues holds stepped := by
    obtain ⟨rfl, long, rfl, rfl⟩ := continues_of_step stepped
    exact holds.continues long

end Steps

/-- An ended shift has returned, or is at an await of the drain it is in. -/
def EndsShift : Config → Prop
  | .running pc self _ =>
      self.ended = true ∧ ((∃ orderId, pc = .awaitAccept orderId) ∨ pc = .awaitReport)
  | .completed result =>
      ∃ courierId count, result = CourierShiftWorkflow.shiftEnded courierId count
  | .failed => False

theorem EndLost.not_onTime_iff {trace : List Event} (lost : EndLost trace) (returns : Prop) :
    (lateSuccessors trace = [] ∧ returns) ↔ overruns trace = [] :=
  ⟨fun kept => absurd kept.1 lost.1, fun none => absurd none lost.2⟩

/-- A shift left running after its end is in the middle of a drain. -/
theorem endsShift_of_parked {pc : Pc} {self : CourierShiftWorkflow} {history : Nat}
    (parked : courierWorkflow.Parked pc self history) (closed : self.ended = true) :
    EndsShift (.running pc self history) := by
  refine ⟨closed, ?_⟩
  rcases parked with ⟨_, _, rfl, _⟩ | suspended
  · cases closed
  · rcases suspends_of_step suspended with ⟨_, asleep⟩ | accepting | reporting
    · simp [CourierShiftWorkflow.wakes, closed] at asleep
    · exact Or.inl accepting
    · exact Or.inr reporting

/-- Once an `end_shift` has been handled, no run of the chain continues as new
and the shift returns when its drain is done, if and only if no drain of an
ended shift ends on a history past the threshold. -/
theorem end_shift_durable_iff {start : CourierState} {trace : List Event} {config : Config}
    (chain : courierWorkflow.Chain start trace config) :
    (lateSuccessors trace = [] ∧ (endings trace ≠ [] → EndsShift config)) ↔
      overruns trace = [] := by
  cases config with
  | running pc self history =>
      have holds : EndIdle trace pc self := (endTracked start).of_running chain
      rcases holds with ⟨_, ⟨onTime, ended⟩, quiet⟩ | lost
      · refine ⟨fun _ => quiet, fun _ => ⟨onTime, fun happened => ?_⟩⟩
        exact endsShift_of_parked chain.parked (ended.mpr happened)
      · exact lost.not_onTime_iff _
  | completed result =>
      obtain ⟨before, pc, self, history, rfl, holds, stepped⟩ :=
        (endTracked start).of_completed chain
      obtain ⟨rfl, _, returned⟩ := completes_of_step stepped
      have busy : EndBusy before .checkEnd self history := holds
      rcases busy with ⟨known, overran⟩ | lost
      · have onTime : lateSuccessors (before ++ [.completed result]) = [] :=
          (collect_since_append rfl before).trans known.1
        have quiet : overruns before = [] := Classical.not_not.mp overran.mp
        refine ⟨fun _ => ?_, fun _ => ⟨onTime, fun _ => ⟨_, _, returned⟩⟩⟩
        simp only [overruns] at quiet
        simp [overruns, endOverrun, quiet]
      · exact (lost.append _).not_onTime_iff _
  | failed =>
      obtain ⟨_, _, _, _, _, _, stepped⟩ := (endTracked start).of_chain chain
      exact absurd stepped not_fails

/-- A shift which ends while an assignment is being accepted, and returns. -/
theorem end_shift_durable_of_drain :
    ∃ trace, courierWorkflow.Chain { courierId := "7-ab", region := "us-west" } trace
        (.completed "shift-ended:7-ab:1") ∧
      endings trace ≠ [] ∧ lateSuccessors trace = [] := by
  have chain := Workflow.Chain.of_replay courierWorkflow 10
    { courierId := "7-ab", region := "us-west" }
    [⟨[], none, 3⟩, ⟨[.assignment "o1"], none, 7⟩,
      ⟨[.endShift], some .activityCompleted, 13⟩, ⟨[], some .signalSent, 18⟩] rfl
  exact ⟨_, chain, by decide, ((end_shift_durable_iff chain).mpr rfl).1⟩

/-- A shift which ends while an assignment is being accepted near the history
threshold continues as new, and waits on as if it had not ended. -/
theorem end_shift_lost_at_threshold :
    ∃ trace self, courierWorkflow.Chain { courierId := "7-ab", region := "us-west" } trace
        (.running .wait self 3) ∧
      ¬ (lateSuccessors trace = [] ∧
        (endings trace ≠ [] → EndsShift (.running .wait self 3))) := by
  have chain := Workflow.Chain.of_replay courierWorkflow 10
    { courierId := "7-ab", region := "us-west" }
    [⟨[], none, 3⟩, ⟨[.assignment "o1"], none, 1490⟩,
      ⟨[.endShift], some .activityCompleted, 1497⟩, ⟨[], some .signalSent, 1502⟩,
      ⟨[], none, 3⟩] rfl
  refine ⟨_, _, chain, ?_⟩
  intro durable
  exact absurd durable.1 (by decide)

end WardenDemo.Courier
