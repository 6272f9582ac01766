import WardenDemo.Common.Models
import WardenDemo.Durable.Workflow

/-!
# OrderWorkflow

The fixed sequential saga of one order. A program point is a place in the saga
together with the immutable input, which the coroutine keeps as its argument.

An activity may exhaust its retries or fail for good, and starting the child may
fail; either fails the order. Signalling the region may fail, and the failure is
swallowed. Search attributes are upserted with a stage, and only if the input
asks for stage tracking.
-/

namespace WardenDemo.Order

open Durable

/-- The instance attributes of `OrderWorkflow`. -/
structure OrderWorkflow where
  courierId : Option String := none
  trackStages : Bool := true
deriving DecidableEq, Repr

inductive Signal where
  | courierAssigned (courierId : String)
deriving DecidableEq, Repr

inductive Activity where
  | validateOrder
  | authorizePayment
  | sendToRestaurant
  | pollRestaurantAccept
  | markPickedUp
  | markDelivered
deriving DecidableEq, Repr

/-- The sleeps of the saga. -/
inductive Timer where
  | forceTimeout
  | restaurantAccept
  | prep
  | transit
deriving DecidableEq, Repr

def Timer.seconds : Timer → Nat
  | .forceTimeout => 30
  | .restaurantAccept => 10
  | .prep => 70
  | .transit => 60

/-- The delivery promise, in minutes from acceptance. -/
def deliveryPromise : Nat := 35

/-- The stages of an order; the last one is stamped on its settlement. -/
inductive Stage where
  | preparing
  | awaitingCourier
  | inTransit
  | settling
deriving DecidableEq, Repr

/-- What rides along with a stage change. -/
inductive Extra where
  | promisedDeliveryAt (minutesFromNow : Nat)
  | courierId (courierId : String)
deriving DecidableEq, Repr

/-- The start-time search attributes of the settlement child. -/
structure SettlementAttributes where
  deliveryRegion : String
  restaurantId : String
  courierId : String
  orderStage : Stage
deriving DecidableEq, Repr

inductive Command where
  | executeActivity (activity : Activity) (orderId : String) (flag : Bool)
  | sleep (seconds : Nat)
  | upsertSearchAttributes (stage : Stage) (extra : Option Extra)
  | signalOrderReady (dispatchWfId : String) (ready : OrderReady)
  | startSettlement (id : String) (input : SettlementInput) (attributes : SettlementAttributes)
deriving DecidableEq, Repr

inductive Place where
  | start
  | call (activity : Activity)
  | awaitCall (activity : Activity)
  | sleep (timer : Timer)
  | awaitSleep (timer : Timer)
  | preparing
  | requestDispatch
  | awaitRequest
  | awaitingCourier
  | awaitCourier
  | fallback
  | inTransit
  | settle
  | awaitSettle
  | delivered
  | raised
deriving DecidableEq, Repr

structure Pc where
  inp : OrderInput
  place : Place
deriving DecidableEq, Repr

/-- The flag an activity is given: `slow` or `should_fail`. -/
def Activity.flag (inp : OrderInput) : Activity → Bool
  | .validateOrder => inp.slowValidate
  | .sendToRestaurant => inp.failAtRestaurant
  | _ => false

/-- Where the saga goes on once an activity has completed. -/
def Activity.next : Activity → Place
  | .validateOrder => .call .authorizePayment
  | .authorizePayment => .call .sendToRestaurant
  | .sendToRestaurant => .sleep .restaurantAccept
  | .pollRestaurantAccept => .preparing
  | .markPickedUp => .inTransit
  | .markDelivered => .settle

/-- Where the saga goes on once a timer has fired. -/
def Timer.next : Timer → Place
  | .forceTimeout => .call .validateOrder
  | .restaurantAccept => .call .pollRestaurantAccept
  | .prep => .requestDispatch
  | .transit => .call .markDelivered

/-- The courier of an order which dispatch has left without one. -/
def syntheticCourier (orderId : String) : String :=
  "synthetic-" ++ .ofList (orderId.toList.take 8)

/-- `courier_id or "unknown"`. -/
def orUnknown (courierId : Option String) : String :=
  let named := courierId.getD ""
  if named = "" then "unknown" else named

namespace OrderWorkflow

def handle : Signal → OrderWorkflow → OrderWorkflow
  | .courierAssigned courierId, self => { self with courierId := some courierId }

/-- One batched upsert per stage change, or none. -/
def stage (self : OrderWorkflow) (stage : Stage) (extra : Option Extra) : List Command :=
  if self.trackStages then [.upsertSearchAttributes stage extra] else []

def settlement (self : OrderWorkflow) (inp : OrderInput) : Command :=
  .startSettlement (settlementId inp.orderId)
    { orderId := inp.orderId
      region := inp.region
      restaurantId := inp.restaurantId
      courierId := orUnknown self.courierId }
    { deliveryRegion := inp.region
      restaurantId := inp.restaurantId
      courierId := orUnknown self.courierId
      orderStage := .settling }

/-- Go on in the saga with the same input. -/
def proceed (inp : OrderInput) (place : Place) (self : OrderWorkflow) (commands : List Command) :
    Action OrderInput OrderWorkflow Pc Command String :=
  .proceed ⟨inp, place⟩ self commands

def step (_history : Nat) (pc : Pc) (self : OrderWorkflow) :
    Action OrderInput OrderWorkflow Pc Command String :=
  match pc.place with
  | .start =>
      proceed pc.inp (if pc.inp.forceTimeout then .sleep .forceTimeout else .call .validateOrder)
        { self with trackStages := pc.inp.trackStages } []
  | .call activity =>
      proceed pc.inp (.awaitCall activity) self
        [.executeActivity activity pc.inp.orderId (activity.flag pc.inp)]
  | .awaitCall _ => .suspend
  | .sleep timer => proceed pc.inp (.awaitSleep timer) self [.sleep timer.seconds]
  | .awaitSleep _ => .suspend
  | .preparing =>
      proceed pc.inp (.sleep .prep) self
        (self.stage .preparing (some (.promisedDeliveryAt deliveryPromise)))
  | .requestDispatch =>
      proceed pc.inp .awaitRequest self
        [.signalOrderReady (dispatchId pc.inp.region)
          ⟨pc.inp.orderId, orderWfId pc.inp.orderId, pc.inp.region⟩]
  | .awaitRequest => .suspend
  | .awaitingCourier => proceed pc.inp .awaitCourier self (self.stage .awaitingCourier none)
  | .awaitCourier =>
      if self.courierId.isSome then proceed pc.inp (.call .markPickedUp) self [] else .suspend
  | .fallback =>
      proceed pc.inp (.call .markPickedUp)
        { self with courierId := some (syntheticCourier pc.inp.orderId) } []
  | .inTransit =>
      proceed pc.inp (.sleep .transit) self
        (self.stage .inTransit (some (.courierId (orUnknown self.courierId))))
  | .settle => proceed pc.inp .awaitSettle self [self.settlement pc.inp]
  | .awaitSettle => .suspend
  | .delivered => .complete "delivered"
  | .raised => .fail

/-- A courier assigned in the same activation as the wait times out satisfies
the wait: conditions are tested once signals are handled, before timers fire. -/
def resumePlace : Resolution → Place → OrderWorkflow → Option Place
  | .activityCompleted, .awaitCall activity, _ => some activity.next
  | .activityFailed, .awaitCall _, _ => some .raised
  | .timerFired, .awaitSleep timer, _ => some timer.next
  | .signalSent, .awaitRequest, _ => some .awaitingCourier
  | .signalFailed, .awaitRequest, _ => some .awaitingCourier
  | .timerFired, .awaitCourier, self =>
      if self.courierId.isSome then some .awaitCourier else some .fallback
  | .childStarted, .awaitSettle, _ => some .delivered
  | .childFailed, .awaitSettle, _ => some .raised
  | _, _, _ => none

def resume (resolution : Resolution) (pc : Pc) (self : OrderWorkflow) : Option Pc :=
  (resumePlace resolution pc.place self).map fun place => ⟨pc.inp, place⟩

end OrderWorkflow

/-- `OrderWorkflow` as the server runs it. It never continues as new. -/
def orderWorkflow : Workflow OrderInput Signal OrderWorkflow Pc Command String where
  init := {}
  handle := OrderWorkflow.handle
  entry inp := ⟨inp, .start⟩
  step := OrderWorkflow.step
  resume := OrderWorkflow.resume

abbrev Event := Durable.Event OrderInput Signal OrderWorkflow Pc Command String
abbrev Config := Durable.Config OrderWorkflow Pc String

end WardenDemo.Order
