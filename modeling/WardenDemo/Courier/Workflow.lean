import WardenDemo.Common.Models
import WardenDemo.Durable.Workflow

/-!
# CourierShiftWorkflow

The per-courier entity of one active shift. `accept_assignment` runs under the
default retry policy, so it is only ever resolved as completed; reporting
availability may fail, and the failure is swallowed.
-/

namespace WardenDemo.Courier

open Durable

def maxHistory : Nat := 1500

/-- The instance attributes of `CourierShiftWorkflow`; `ended` is `_end`. -/
structure CourierShiftWorkflow where
  courierId : String := ""
  region : String := ""
  vehicleType : String := "bike"
  assignments : List String := []
  pings : Nat := 0
  count : Nat := 0
  ended : Bool := false
deriving DecidableEq, Repr

inductive Signal where
  | locationPing
  | assignment (orderId : String)
  | endShift
deriving DecidableEq, Repr

inductive Command where
  | acceptAssignment (courierId orderId : String)
  | signalCourierAvailable (dispatchWfId : String) (avail : CourierAvailable)
  | stampSearchAttributes (courierId region vehicleType : String)
deriving DecidableEq, Repr

inductive Pc where
  | entry (state : CourierState)
  | wait
  | checkEnd
  | drain
  | awaitAccept (orderId : String)
  | accepted
  | awaitReport
  | checkHistory
deriving DecidableEq, Repr

namespace CourierShiftWorkflow

def handle : Signal → CourierShiftWorkflow → CourierShiftWorkflow
  | .locationPing, self => { self with pings := self.pings + 1 }
  | .assignment orderId, self => { self with assignments := self.assignments ++ [orderId] }
  | .endShift, self => { self with ended := true }

/-- The first statements of `run`: everything but `_assignments` and `_end` is
overwritten by the carried state. -/
def initialise (self : CourierShiftWorkflow) (state : CourierState) : CourierShiftWorkflow :=
  { self with
    courierId := state.courierId
    region := state.region
    vehicleType := state.vehicleType
    count := state.assignments
    pings := state.pings }

def wakes (self : CourierShiftWorkflow) (history : Nat) : Bool :=
  self.ended || !self.assignments.isEmpty || decide (history > maxHistory)

def shiftEnded (courierId : String) (count : Nat) : String :=
  s!"shift-ended:{courierId}:{count}"

def carry (self : CourierShiftWorkflow) : CourierState where
  courierId := self.courierId
  region := self.region
  assignments := self.count
  pings := self.pings
  vehicleType := self.vehicleType

def step (history : Nat) :
    Pc → CourierShiftWorkflow → Action CourierState CourierShiftWorkflow Pc Command String
  | .entry state, self => .proceed .wait (self.initialise state) []
  | .wait, self => if self.wakes history then .proceed .checkEnd self [] else .suspend
  | .checkEnd, self =>
      if self.ended then .complete (shiftEnded self.courierId self.count)
      else .proceed .drain self []
  | .drain, self =>
      match self.assignments with
      | [] => .proceed .checkHistory self []
      | orderId :: rest =>
          .proceed (.awaitAccept orderId) { self with assignments := rest }
            [.acceptAssignment self.courierId orderId]
  | .awaitAccept _, _ => .suspend
  | .accepted, self =>
      .proceed .awaitReport { self with count := self.count + 1 }
        [.signalCourierAvailable (dispatchId self.region) ⟨self.courierId, self.region⟩]
  | .awaitReport, _ => .suspend
  | .checkHistory, self =>
      if history > maxHistory then
        .continueAsNew self.carry
          [.stampSearchAttributes self.courierId self.region self.vehicleType]
      else .proceed .wait self []

def resume : Resolution → Pc → CourierShiftWorkflow → Option Pc
  | .activityCompleted, .awaitAccept _, _ => some .accepted
  | .signalSent, .awaitReport, _ => some .drain
  | .signalFailed, .awaitReport, _ => some .drain
  | _, _, _ => none

end CourierShiftWorkflow

/-- `CourierShiftWorkflow` as the server runs it. -/
def courierWorkflow : Workflow CourierState Signal CourierShiftWorkflow Pc Command String where
  init := {}
  handle := CourierShiftWorkflow.handle
  entry := .entry
  step := CourierShiftWorkflow.step
  resume := CourierShiftWorkflow.resume

abbrev Event := Durable.Event CourierState Signal CourierShiftWorkflow Pc Command String
abbrev Config := Durable.Config CourierShiftWorkflow Pc String

end WardenDemo.Courier
