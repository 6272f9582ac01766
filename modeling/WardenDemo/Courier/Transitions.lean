import WardenDemo.Courier.Workflow

/-!
# What a courier shift can do

`Takes` and `Resumes` say once what the program points and the awaits of
`CourierShiftWorkflow` do, for the invariants of a shift.
-/

namespace WardenDemo.Courier

open Durable

/-- What each program point does, with what is known where it does it. -/
inductive Takes (history : Nat) : Pc → CourierShiftWorkflow →
    Action CourierState CourierShiftWorkflow Pc Command String → Prop where
  | entry {state self} :
      Takes history (.entry state) self (.proceed .wait (self.initialise state) [])
  | wakes {self : CourierShiftWorkflow} (woken : self.wakes history = true) :
      Takes history .wait self (.proceed .checkEnd self [])
  | blocks {self : CourierShiftWorkflow} (asleep : self.wakes history = false) :
      Takes history .wait self .suspend
  | ends {self : CourierShiftWorkflow} (closed : self.ended = true) :
      Takes history .checkEnd self
        (.complete (CourierShiftWorkflow.shiftEnded self.courierId self.count))
  | goesOn {self : CourierShiftWorkflow} (on : self.ended = false) :
      Takes history .checkEnd self (.proceed .drain self [])
  | drained {self : CourierShiftWorkflow} (empty : self.assignments = []) :
      Takes history .drain self (.proceed .checkHistory self [])
  | accepts {orderId rest} {self : CourierShiftWorkflow}
      (head : self.assignments = orderId :: rest) :
      Takes history .drain self
        (.proceed (.awaitAccept orderId) { self with assignments := rest }
          [.acceptAssignment self.courierId orderId])
  | accepting {orderId self} : Takes history (.awaitAccept orderId) self .suspend
  | reports {self : CourierShiftWorkflow} :
      Takes history .accepted self
        (.proceed .awaitReport { self with count := self.count + 1 }
          [.signalCourierAvailable (dispatchId self.region) ⟨self.courierId, self.region⟩])
  | reporting {self} : Takes history .awaitReport self .suspend
  | stays {self} (short : history ≤ maxHistory) :
      Takes history .checkHistory self (.proceed .wait self [])
  | continues {self : CourierShiftWorkflow} (long : history > maxHistory) :
      Takes history .checkHistory self (.continueAsNew self.carry
        [.stampSearchAttributes self.courierId self.region self.vehicleType])

theorem takes_step (history : Nat) (pc : Pc) (self : CourierShiftWorkflow) :
    Takes history pc self (CourierShiftWorkflow.step history pc self) := by
  cases pc with
  | entry state => exact .entry
  | wait =>
      rw [CourierShiftWorkflow.step]
      split
      · exact .wakes (by assumption)
      · exact .blocks (by simpa using ‹¬ self.wakes history = true›)
  | checkEnd =>
      rw [CourierShiftWorkflow.step]
      split
      · exact .ends (by assumption)
      · exact .goesOn (by simpa using ‹¬ self.ended = true›)
  | drain =>
      rw [CourierShiftWorkflow.step]
      split
      · exact .drained (by assumption)
      · exact .accepts (by assumption)
  | awaitAccept orderId => exact .accepting
  | accepted => exact .reports
  | awaitReport => exact .reporting
  | checkHistory =>
      rw [CourierShiftWorkflow.step]
      split
      · exact .continues (by assumption)
      · exact .stays (Nat.le_of_not_gt (by assumption))

/-- The program points which go on to another one. -/
abbrev Proceeds (history : Nat) (pc : Pc) (self : CourierShiftWorkflow) (next : Pc)
    (self' : CourierShiftWorkflow) (commands : List Command) : Prop :=
  Takes history pc self (.proceed next self' commands)

section Steps

variable {history : Nat} {pc next : Pc} {self self' : CourierShiftWorkflow}
  {commands : List Command}

theorem proceeds_of_step
    (stepped : CourierShiftWorkflow.step history pc self = .proceed next self' commands) :
    Proceeds history pc self next self' commands := by
  rw [Proceeds, ← stepped]
  exact takes_step history pc self

/-- Only the test after the drain continues as new. -/
theorem continues_of_step {input : CourierState}
    (stepped : CourierShiftWorkflow.step history pc self = .continueAsNew input commands) :
    pc = .checkHistory ∧ history > maxHistory ∧ input = self.carry ∧
      commands = [.stampSearchAttributes self.courierId self.region self.vehicleType] := by
  have taken := takes_step history pc self
  rw [stepped] at taken
  cases taken with
  | continues long => exact ⟨rfl, long, rfl, rfl⟩

/-- A shift is suspended at an await, or in its wait with nothing to wake it. -/
theorem suspends_of_step (stepped : CourierShiftWorkflow.step history pc self = .suspend) :
    (pc = .wait ∧ self.wakes history = false) ∨ (∃ orderId, pc = .awaitAccept orderId) ∨
      pc = .awaitReport := by
  have taken := takes_step history pc self
  rw [stepped] at taken
  cases taken with
  | blocks asleep => exact Or.inl ⟨rfl, asleep⟩
  | accepting => exact Or.inr (Or.inl ⟨_, rfl⟩)
  | reporting => exact Or.inr (Or.inr rfl)

/-- A shift only returns where it tests `_end`. -/
theorem completes_of_step {result : String}
    (stepped : CourierShiftWorkflow.step history pc self = .complete result) :
    pc = .checkEnd ∧ self.ended = true ∧
      result = CourierShiftWorkflow.shiftEnded self.courierId self.count := by
  have taken := takes_step history pc self
  rw [stepped] at taken
  cases taken with
  | ends closed => exact ⟨rfl, closed, rfl⟩

theorem not_fails : CourierShiftWorkflow.step history pc self ≠ .fail := by
  intro stepped
  have taken := takes_step history pc self
  rw [stepped] at taken
  cases taken

/-- Where a resolved await goes on from. -/
inductive Resumes : Pc → Pc → Prop where
  | accepted {orderId} : Resumes (.awaitAccept orderId) .accepted
  | reported : Resumes .awaitReport .drain

theorem resumes_of_resume {resolution : Resolution}
    (resumed : CourierShiftWorkflow.resume resolution pc self = some next) :
    Resumes pc next := by
  unfold CourierShiftWorkflow.resume at resumed
  split at resumed <;> cases resumed
  · exact .accepted
  · exact .reported
  · exact .reported

end Steps

end WardenDemo.Courier
