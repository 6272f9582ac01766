import Mathlib.Algebra.Order.Ring.Unbundled.Rat
import WardenDemo.Traffic.ControlLoop

/-!
# The generator's loops

The loops which `Generator.run` gathers, one iteration at a time. A call of the
Temporal client returns or raises; each call site catches some exceptions, and
one that it does not catch ends the loop and with it the gather.

An iteration reads the scenario map before the first call it makes, so iterations
of different loops do not come in between. Random draws and the replies of the
client are parameters; sleeps are left out.
-/

namespace WardenDemo.Traffic

open Control

/-- The exceptions the call sites tell apart. -/
inductive Exception where
  | workflowAlreadyStarted
  | other
deriving DecidableEq, Repr

/-- What a call of the client does. -/
abbrev Reply := Except Exception Unit

/-- `except Exception: pass`, around a call. -/
def suppress : Reply → Reply
  | .ok _ | .error _ => .ok ()

/-- `except WorkflowAlreadyStartedError: pass`, around a call. -/
def tolerate : Reply → Reply
  | .error .workflowAlreadyStarted => .ok ()
  | reply => reply

/-- A conversion which fails raises a `TypeError`, `ValueError` or `OverflowError`. -/
def convert {α : Type} : Option α → Except Exception α
  | some value => .ok value
  | none => .error .other

/-- The configuration that is read from the environment. -/
structure Config where
  address : String := ""
  namespaceId : String := ""
  apiKey : String := ""
  orderStartRatePerSec : Rat := 3 / 5
  orderStartJitter : Rat := 1 / 5
  courierFleetSize : Int := 10
  orderStageTracking : Bool := true
deriving DecidableEq, Repr

/-- The instance attributes of `Generator`, and the tick of `courier_loop` once
it has brought the fleet up to size. -/
structure Process extends Generator where
  couriers : List String := []
  courierSeq : Nat := 0
  ordersStarted : Nat := 0
  tick : Option Nat := none

namespace Generator

variable (numerals : Json.Numerals) (self : Generator)

/-- `self._params(name).get(key, default)`. -/
def paramOr (name key : String) (default : Json) : Json :=
  ((self.params name).lookup key).getD default

def failureProbability : Option FloatValue :=
  (self.paramOr workflowFailure "failure_probability" (.float .pointFour)).toFloat numerals

def timeoutProbability : Option FloatValue :=
  (self.paramOr timeoutSpike "probability" (.float (.finite (1 / 2)))).toFloat numerals

def fanoutChildren : Option Int :=
  (self.paramOr fanoutStorm "children" (.int 400)).toInt numerals.toText

def bloatIterations : Option Int :=
  (self.paramOr closeHistoryBloat "iterations" (.int 700)).toInt numerals.toText

def inflateRate : Option Int :=
  (self.paramOr entityHistory "inflate_rate" (.int 40)).toInt numerals.toText

/-- Whether an enabled scenario strikes an order; only then is its probability
converted. -/
def strikes (name : String) (probability : Option FloatValue) (draw : Rat) :
    Except Exception Bool :=
  if self.enabled name then (convert probability).map (FloatValue.above draw) else .ok false

end Generator

structure OrderDraws where
  region : String
  restaurant : String
  orderId : String
  failure : Rat
  timeout : Rat
deriving Repr

/-- The draws of one turn of `courier_loop`, and the replies to its calls. -/
structure CourierDraws where
  ping : String → Reply := fun _ => .ok ()
  assignment : Reply := .ok ()
  endShift : Reply := .ok ()
  hex : String
  start : Reply := .ok ()

/-- `_order_delay`, in seconds; `uniform` draws between its arguments. -/
def orderDelay (config : Config) (uniform : Rat → Rat → Rat) : Rat :=
  let rate := max (1 / 100) config.orderStartRatePerSec
  let base := 1 / rate
  let jitter := config.orderStartJitter
  base * (1 + uniform (-jitter) jitter)

def regions : List String := ["us-west", "us-east", "midwest", "south", "northeast"]

def menuRestaurants : List String := ["rest-1", "rest-2", "rest-3", "rest-4"]

def menuId (restaurant : String) : String := s!"menu-{restaurant}"

/-- The entities `ensure_entities` starts, in order. -/
def entityIds : List String := regions.map dispatchId ++ menuRestaurants.map menuId

/-- `ensure_entities` lets through what is not a `WorkflowAlreadyStartedError`. -/
def ensureEntities (replies : String → Reply) : Reply :=
  entityIds.forM fun wfId => tolerate (replies wfId)

namespace Process

variable (numerals : Json.Numerals) (config : Config)

/-- What an iteration of `order_loop` starts: the input of the order, and its
execution timeout in seconds. -/
def orderStart (draws : OrderDraws) (self : Process) :
    Except Exception (OrderInput × Option Nat) := do
  let failAtRestaurant ←
    self.strikes workflowFailure (self.failureProbability numerals) draws.failure
  let forceTimeout ← self.strikes timeoutSpike (self.timeoutProbability numerals) draws.timeout
  return ({ orderId := draws.orderId
            region := draws.region
            restaurantId := draws.restaurant
            failAtRestaurant
            forceTimeout
            trackStages := config.orderStageTracking },
          if forceTimeout then some 10 else none)

def orderIteration (draws : OrderDraws) (reply : Reply) (self : Process) :
    Except Exception Process := do
  let _started ← self.orderStart numerals config draws
  match reply with
  | .ok _ => return { self with ordersStarted := self.ordersStarted + 1 }
  | .error _ => return self

/-- The input an iteration of `batch_loop` starts a batch with. -/
def batchInput (batchId : String) (children : Int) (self : Process) :
    Except Exception BatchInput :=
  if self.enabled fanoutStorm then
    (convert (self.fanoutChildren numerals)).map fun children =>
      { batchId, mode := "fanout_storm", children }
  else if self.enabled closeHistoryBloat then
    (convert (self.bloatIterations numerals)).map fun iterations =>
      { batchId, mode := "sequential_bloat", iterations }
  else .ok { batchId, mode := "normal", children }

def batchIteration (batchId : String) (children : Int) (reply : Reply) (self : Process) :
    Except Exception Process := do
  let _started ← self.batchInput numerals batchId children
  suppress reply
  return self

/-- An iteration of `control_loop`; no map is queried where the query raises, and a
signal that is not sent has no reply to swallow. -/
def controlIteration (queried : Option ScenarioMap) (reset degrade : Reply) (self : Process) :
    Except Exception Process := do
  let ticked := (self.refreshScenarios queried).controlTick numerals.toText
  suppress reset
  let after ← convert ticked.after
  suppress degrade
  return { self with toGenerator := after }

/-- `_start_courier`: a courier whose id was taken is kept like a started one. -/
def startCourier (hex : String) (reply : Reply) (self : Process) : Process :=
  let courierSeq := self.courierSeq + 1
  match reply with
  | .ok _ | .error .workflowAlreadyStarted =>
      { self with courierSeq, couriers := self.couriers ++ [s!"{courierSeq}-{hex}"] }
  | .error .other => { self with courierSeq }

/-- The oldest courier, where a tick retires it. -/
def retired (tick : Nat) (self : Process) : Option String :=
  if tick % 4 = 0 then self.couriers.head? else none

/-- A turn of `courier_loop`: one more courier while the fleet is short, and then
one tick after the other. -/
def courierIteration (draws : CourierDraws) (self : Process) : Except Exception Process :=
  match self.tick with
  | none =>
      if (self.couriers.length : Int) < config.courierFleetSize then
        .ok (self.startCourier draws.hex draws.start)
      else .ok { self with tick := some 0 }
  | some last => do
      let tick := last + 1
      self.couriers.forM fun courierId => suppress (draws.ping courierId)
      -- where no assignment is sent, none is swallowed either
      suppress draws.assignment
      match self.retired tick with
      | none => return { self with tick := some tick }
      | some _old =>
          suppress draws.endShift
          let rest := { self with tick := some tick, couriers := self.couriers.tail }
          return rest.startCourier draws.hex draws.start

def keepaliveIteration (replies : String → Reply) (self : Process) :
    Except Exception Process := do
  ensureEntities replies
  return self

end Process

/-- One turn of one of the gathered loops. -/
inductive Turn where
  | order (draws : OrderDraws) (reply : Reply)
  | courier (draws : CourierDraws)
  | batch (batchId : String) (children : Int) (reply : Reply)
  | control (queried : Option ScenarioMap) (reset degrade : Reply)
  | keepalive (replies : String → Reply)

def Process.turn (numerals : Json.Numerals) (config : Config) :
    Turn → Process → Except Exception Process
  | .order draws reply, self => self.orderIteration numerals config draws reply
  | .courier draws, self => self.courierIteration config draws
  | .batch batchId children reply, self => self.batchIteration numerals batchId children reply
  | .control queried reset degrade, self =>
      self.controlIteration numerals queried reset degrade
  | .keepalive replies, self => self.keepaliveIteration replies

/-- `asyncio.gather` goes on until one of the loops raises. -/
def gather (numerals : Json.Numerals) (config : Config) (self : Process) (turns : List Turn) :
    Except Exception Process :=
  turns.foldlM (fun process turn => process.turn numerals config turn) self

end WardenDemo.Traffic
