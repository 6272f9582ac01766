import WardenDemo.Common.Models
import WardenDemo.Durable.Workflow

/-!
# DispatchWorkflow

The per-region entity which matches ready orders to available couriers. The run
coroutine is cut at its awaits; each `Pc` is one place between two of them.

Activities and local activities run under the default retry policy, which
retries without limit, so they are only ever resolved as completed. Signalling
the order back may fail, and the failure is swallowed.
-/

namespace WardenDemo.Dispatch

open Durable

/-- Continue-as-new thresholds at baseline. -/
def maxProcessed : Nat := 200
def maxHistory : Nat := 1500

/-- The values of the FleetStatus search attribute. -/
inductive FleetStatus where
  | healthy
  | degraded
deriving DecidableEq, Repr

/-- The instance attributes of `DispatchWorkflow`. -/
structure DispatchWorkflow where
  region : String := ""
  pending : List PendingOrder := []
  couriers : List String := []
  processed : Nat := 0
  degr : Degradation := {}
  seq : Nat := 0
  publishedStatus : FleetStatus := .healthy
deriving DecidableEq, Repr

inductive Signal where
  | orderReady (ready : OrderReady)
  | courierAvailable (avail : CourierAvailable)
  | setDegradation (degr : Degradation)
deriving DecidableEq, Repr

/-- Who carries an order: a courier popped from the pool, or one made up. -/
inductive Courier where
  | pooled (courierId : String)
  | synthetic (region : String) (processed : Nat)
deriving DecidableEq, Repr

/-- The courier id handed to `assign_courier` and back to the order. -/
def Courier.id : Courier → String
  | .pooled courierId => courierId
  | .synthetic region processed => s!"synthetic-{region}-{processed}"

def Courier.isSynthetic : Courier → Bool
  | .pooled _ => false
  | .synthetic _ _ => true

/-- One `assign_courier` call, with the pool its order was popped over. -/
structure Assignment where
  order : PendingOrder
  courier : Courier
  pool : List String
deriving DecidableEq, Repr

inductive Command where
  | noopMarker (seq : Nat)
  | sleep (seconds : Nat)
  | upsertSearchAttributes (fleetStatus : FleetStatus) (pendingOrderCount : Nat)
  | assignCourier (assignment : Assignment)
  | signalCourierAssigned (orderWfId : String) (courier : String)
  | stampSearchAttributes (region : String) (fleetStatus : FleetStatus)
      (pendingOrderCount : Nat)
deriving DecidableEq, Repr

inductive Pc where
  | entry (state : DispatchState)
  | loop
  | inflate (remaining : Nat)
  | awaitMarker (remaining : Nat)
  | awaitSleep
  | wait
  | publish
  | drain
  | awaitAssign (order : PendingOrder) (courier : Courier)
  | reply (order : PendingOrder) (courier : Courier)
  | awaitReply
  | assigned
  | checkContinue
deriving DecidableEq, Repr

namespace DispatchWorkflow

def handle : Signal → DispatchWorkflow → DispatchWorkflow
  | .orderReady ready, self =>
      { self with pending := self.pending ++ [⟨ready.orderId, ready.orderWfId⟩] }
  | .courierAvailable avail, self =>
      { self with couriers := self.couriers ++ [avail.courierId] }
  | .setDegradation degr, self => { self with degr }

@[simp] theorem handle_processed (signal : Signal) (self : DispatchWorkflow) :
    (handle signal self).processed = self.processed := by
  cases signal <;> rfl

@[simp] theorem handle_publishedStatus (signal : Signal) (self : DispatchWorkflow) :
    (handle signal self).publishedStatus = self.publishedStatus := by
  cases signal <;> rfl

/-- The region's health as visibility sees it: degraded exactly when S2 is on. -/
def statusOf (degr : Degradation) : FleetStatus :=
  if degr.suspendCan || degr.inflateHistory then .degraded else .healthy

def status (self : DispatchWorkflow) : FleetStatus := statusOf self.degr

/-- The first statements of `run`, which overwrite what handlers have left. -/
def initialise (self : DispatchWorkflow) (state : DispatchState) : DispatchWorkflow :=
  { self with
    region := state.region
    pending := state.pendingOrders
    couriers := state.availableCouriers
    processed := state.processed
    degr := state.degradation.getD {}
    publishedStatus := statusOf (state.degradation.getD {}) }

/-- `max(1, int(inflate_rate or 40))`: the local activities of one inflate pass. -/
def inflateRounds (degr : Degradation) : Nat :=
  (max 1 (if degr.inflateRate = 0 then 40 else degr.inflateRate)).toNat

/-- The condition of the wait: work, a degradation flip, an unpublished health
change, or a history which must be shed. -/
def wakes (self : DispatchWorkflow) (history : Nat) : Bool :=
  !self.pending.isEmpty || self.degr.inflateHistory ||
    self.status != self.publishedStatus ||
    (!self.degr.suspendCan && decide (history > maxHistory))

/-- Upsert only when the region's health has changed. -/
def publishStatus (self : DispatchWorkflow) : DispatchWorkflow × List Command :=
  if self.status = self.publishedStatus then (self, [])
  else ({ self with publishedStatus := self.status },
    [.upsertSearchAttributes self.status self.pending.length])

/-- The courier for the next order, and the pool it leaves. -/
def takeCourier (self : DispatchWorkflow) : Courier × List String :=
  match self.couriers with
  | courier :: rest => (.pooled courier, rest)
  | [] => (.synthetic self.region self.processed, [])

def continueDue (self : DispatchWorkflow) (history : Nat) : Bool :=
  !self.degr.suspendCan &&
    (decide (self.processed ≥ maxProcessed) || decide (history > maxHistory))

def carry (self : DispatchWorkflow) : DispatchState where
  region := self.region
  pendingOrders := self.pending
  availableCouriers := self.couriers.drop (self.couriers.length - 50)
  processed := 0
  degradation := some self.degr

def step (history : Nat) :
    Pc → DispatchWorkflow → Action DispatchState DispatchWorkflow Pc Command Empty
  | .entry state, self => .proceed .loop (self.initialise state) []
  | .loop, self =>
      if self.degr.inflateHistory then .proceed (.inflate (inflateRounds self.degr)) self []
      else .proceed .wait self []
  | .inflate 0, self => .proceed .awaitSleep self [.sleep 1]
  | .inflate (remaining + 1), self =>
      .proceed (.awaitMarker remaining) { self with seq := self.seq + 1 }
        [.noopMarker (self.seq + 1)]
  | .awaitMarker _, _ => .suspend
  | .awaitSleep, _ => .suspend
  | .wait, self => if self.wakes history then .proceed .publish self [] else .suspend
  | .publish, self => .proceed .drain self.publishStatus.1 self.publishStatus.2
  | .drain, self =>
      match self.pending with
      | [] => .proceed .checkContinue self []
      | order :: rest =>
          .proceed (.awaitAssign order self.takeCourier.1)
            { self with pending := rest, couriers := self.takeCourier.2 }
            [.assignCourier ⟨order, self.takeCourier.1, self.couriers⟩]
  | .awaitAssign _ _, _ => .suspend
  | .reply order courier, self =>
      .proceed .awaitReply self [.signalCourierAssigned order.orderWfId courier.id]
  | .awaitReply, _ => .suspend
  | .assigned, self => .proceed .drain { self with processed := self.processed + 1 } []
  | .checkContinue, self =>
      if self.continueDue history then
        .continueAsNew self.carry
          [.stampSearchAttributes self.region self.status self.pending.length]
      else .proceed .loop self []

def resume : Resolution → Pc → DispatchWorkflow → Option Pc
  | .localActivityCompleted, .awaitMarker remaining, _ => some (.inflate remaining)
  | .timerFired, .awaitSleep, _ => some .publish
  | .activityCompleted, .awaitAssign order courier, _ => some (.reply order courier)
  | .signalSent, .awaitReply, _ => some .assigned
  | .signalFailed, .awaitReply, _ => some .assigned
  | _, _, _ => none

end DispatchWorkflow

/-- `DispatchWorkflow` as the server runs it. It never returns. -/
def dispatchWorkflow : Workflow DispatchState Signal DispatchWorkflow Pc Command Empty where
  init := {}
  handle := DispatchWorkflow.handle
  entry := .entry
  step := DispatchWorkflow.step
  resume := DispatchWorkflow.resume

@[simp] theorem dispatchWorkflow_init : dispatchWorkflow.init = {} := rfl

@[simp] theorem dispatchWorkflow_entry (state : DispatchState) :
    dispatchWorkflow.entry state = .entry state := rfl

abbrev Event := Durable.Event DispatchState Signal DispatchWorkflow Pc Command Empty
abbrev Config := Durable.Config DispatchWorkflow Pc Empty

end WardenDemo.Dispatch
