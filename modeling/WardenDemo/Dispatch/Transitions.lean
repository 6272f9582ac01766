import WardenDemo.Dispatch.Workflow
import WardenDemo.Durable.Invariant

/-!
# What a dispatch region can do

`Takes` and `Resumes` say once what the program points and the awaits of
`DispatchWorkflow` do. Every invariant of the region is derived from them.
-/

namespace WardenDemo.Dispatch

open Durable

/-- What each program point does, with what is known where it does it. -/
inductive Takes (history : Nat) : Pc → DispatchWorkflow →
    Action DispatchState DispatchWorkflow Pc Command Empty → Prop where
  | entry {state self} :
      Takes history (.entry state) self (.proceed .loop (self.initialise state) [])
  | inflates {self : DispatchWorkflow} (on : self.degr.inflateHistory = true) :
      Takes history .loop self
        (.proceed (.inflate (DispatchWorkflow.inflateRounds self.degr)) self [])
  | waits {self : DispatchWorkflow} (off : self.degr.inflateHistory = false) :
      Takes history .loop self (.proceed .wait self [])
  | inflated {self} : Takes history (.inflate 0) self (.proceed .awaitSleep self [.sleep 1])
  | marks {remaining} {self : DispatchWorkflow} :
      Takes history (.inflate (remaining + 1)) self
        (.proceed (.awaitMarker remaining) { self with seq := self.seq + 1 }
          [.noopMarker (self.seq + 1)])
  | marking {remaining self} : Takes history (.awaitMarker remaining) self .suspend
  | sleeps {self} : Takes history .awaitSleep self .suspend
  | wakes {self : DispatchWorkflow} (woken : self.wakes history = true) :
      Takes history .wait self (.proceed .publish self [])
  | blocks {self : DispatchWorkflow} (asleep : self.wakes history = false) :
      Takes history .wait self .suspend
  | unchanged {self : DispatchWorkflow} (same : self.status = self.publishedStatus) :
      Takes history .publish self (.proceed .drain self [])
  | publishes {self : DispatchWorkflow} (flipped : self.status ≠ self.publishedStatus) :
      Takes history .publish self
        (.proceed .drain { self with publishedStatus := self.status }
          [.upsertSearchAttributes self.status self.pending.length])
  | drained {self : DispatchWorkflow} (empty : self.pending = []) :
      Takes history .drain self (.proceed .checkContinue self [])
  | assigns {order rest courier couriers} {self : DispatchWorkflow}
      (head : self.pending = order :: rest) (pool : self.couriers = courier :: couriers) :
      Takes history .drain self
        (.proceed (.awaitAssign order (.pooled courier)) { self with pending := rest, couriers }
          [.assignCourier ⟨order, .pooled courier, courier :: couriers⟩])
  | synthesises {order rest} {self : DispatchWorkflow}
      (head : self.pending = order :: rest) (pool : self.couriers = []) :
      Takes history .drain self
        (.proceed (.awaitAssign order (.synthetic self.region self.processed))
          { self with pending := rest, couriers := [] }
          [.assignCourier ⟨order, .synthetic self.region self.processed, []⟩])
  | accepting {order courier self} : Takes history (.awaitAssign order courier) self .suspend
  | replies {order courier self} : Takes history (.reply order courier) self
      (.proceed .awaitReply self [.signalCourierAssigned order.orderWfId courier.id])
  | replying {self} : Takes history .awaitReply self .suspend
  | counts {self : DispatchWorkflow} : Takes history .assigned self
      (.proceed .drain { self with processed := self.processed + 1 } [])
  | stays {self : DispatchWorkflow} (due : self.continueDue history = false) :
      Takes history .checkContinue self (.proceed .loop self [])
  | continues {self : DispatchWorkflow} (due : self.continueDue history = true) :
      Takes history .checkContinue self (.continueAsNew self.carry
        [.stampSearchAttributes self.region self.status self.pending.length])

theorem takes_step (history : Nat) (pc : Pc) (self : DispatchWorkflow) :
    Takes history pc self (DispatchWorkflow.step history pc self) := by
  cases pc with
  | entry state => exact .entry
  | loop =>
      rw [DispatchWorkflow.step]
      split
      · exact .inflates (by assumption)
      · exact .waits (by simpa using ‹¬ self.degr.inflateHistory = true›)
  | inflate remaining =>
      cases remaining with
      | zero => exact .inflated
      | succ remaining => exact .marks
  | awaitMarker remaining => exact .marking
  | awaitSleep => exact .sleeps
  | wait =>
      rw [DispatchWorkflow.step]
      split
      · exact .wakes (by assumption)
      · exact .blocks (by simpa using ‹¬ self.wakes history = true›)
  | publish =>
      rw [DispatchWorkflow.step, DispatchWorkflow.publishStatus]
      split
      · exact .unchanged (by assumption)
      · exact .publishes (by assumption)
  | drain =>
      rw [DispatchWorkflow.step]
      split
      · exact .drained (by assumption)
      · rename_i order rest head
        cases pool : self.couriers with
        | nil =>
            rw [DispatchWorkflow.takeCourier, pool]
            exact .synthesises head pool
        | cons courier couriers =>
            rw [DispatchWorkflow.takeCourier, pool]
            exact .assigns head pool
  | awaitAssign order courier => exact .accepting
  | reply order courier => exact .replies
  | awaitReply => exact .replying
  | assigned => exact .counts
  | checkContinue =>
      rw [DispatchWorkflow.step]
      split
      · exact .continues (by assumption)
      · exact .stays (by simpa using ‹¬ self.continueDue history = true›)

/-- The program points which go on to another one. -/
abbrev Proceeds (history : Nat) (pc : Pc) (self : DispatchWorkflow) (next : Pc)
    (self' : DispatchWorkflow) (commands : List Command) : Prop :=
  Takes history pc self (.proceed next self' commands)

section Steps

variable {history : Nat} {pc next : Pc} {self self' : DispatchWorkflow} {commands : List Command}

theorem proceeds_of_step
    (stepped : DispatchWorkflow.step history pc self = .proceed next self' commands) :
    Proceeds history pc self next self' commands := by
  rw [Proceeds, ← stepped]
  exact takes_step history pc self

/-- Only the end of a loop pass continues as new. -/
theorem continues_of_step {input : DispatchState}
    (stepped : DispatchWorkflow.step history pc self = .continueAsNew input commands) :
    pc = .checkContinue ∧ self.continueDue history = true ∧ input = self.carry ∧
      commands = [.stampSearchAttributes self.region self.status self.pending.length] := by
  have taken := takes_step history pc self
  rw [stepped] at taken
  cases taken with
  | continues due => exact ⟨rfl, due, rfl, rfl⟩

/-- A region is suspended at an await, or in its wait with nothing to wake it. -/
theorem suspends_of_step (stepped : DispatchWorkflow.step history pc self = .suspend) :
    (∃ remaining, pc = .awaitMarker remaining) ∨ pc = .awaitSleep ∨
      (pc = .wait ∧ self.wakes history = false) ∨
      (∃ order courier, pc = .awaitAssign order courier) ∨ pc = .awaitReply := by
  have taken := takes_step history pc self
  rw [stepped] at taken
  cases taken with
  | marking => exact Or.inl ⟨_, rfl⟩
  | sleeps => exact Or.inr (Or.inl rfl)
  | blocks asleep => exact Or.inr (Or.inr (Or.inl ⟨rfl, asleep⟩))
  | accepting => exact Or.inr (Or.inr (Or.inr (Or.inl ⟨_, _, rfl⟩)))
  | replying => exact Or.inr (Or.inr (Or.inr (Or.inr rfl)))

/-- Where a resolved await goes on from. -/
inductive Resumes : Pc → Pc → Prop where
  | marked {remaining} : Resumes (.awaitMarker remaining) (.inflate remaining)
  | slept : Resumes .awaitSleep .publish
  | accepted {order courier} : Resumes (.awaitAssign order courier) (.reply order courier)
  | replied : Resumes .awaitReply .assigned

theorem resumes_of_resume {resolution : Resolution}
    (resumed : DispatchWorkflow.resume resolution pc self = some next) : Resumes pc next := by
  unfold DispatchWorkflow.resume at resumed
  split at resumed <;> cases resumed
  · exact .marked
  · exact .slept
  · exact .accepted
  · exact .replied
  · exact .replied

end Steps

end WardenDemo.Dispatch
