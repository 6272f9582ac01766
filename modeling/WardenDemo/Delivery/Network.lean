import WardenDemo.Courier.Reports
import WardenDemo.Dispatch.Replies
import WardenDemo.Durable.Network
import WardenDemo.Order.Request

/-!
# The delivery fleet

Orders, regions and courier shifts run side by side and only signal each other:
an order asks its region for a courier, the region replies, and a shift reports
its courier to the region. The generator signals regions and shifts.

A region is restarted under the same id when its execution was terminated, so each
region has any number of executions. Any of them may take in what is signalled to
the region, which allows more than the server does: there one execution has the id
at a time. What has not started yet, or is over, never moves.
-/

namespace WardenDemo.Delivery

open Durable

/-- The signals of the fleet, by the workflow type which handles them. -/
inductive Message where
  | dispatch (signal : Dispatch.Signal)
  | order (signal : Order.Signal)
  | courier (signal : Courier.Signal)
deriving DecidableEq, Repr

inductive Address where
  | order (orderId : String)
  | dispatch (region : String) (execution : Nat)
  | shift (courierId : String)
deriving DecidableEq, Repr

/-- What orders and shifts are started with, under their own ids; a shift is started
with nothing accepted yet. -/
structure Fleet where
  order : String → OrderInput
  shift : String → CourierState
  order_id : ∀ orderId, (order orderId).orderId = orderId
  shift_id : ∀ courierId, (shift courierId).courierId = courierId
  shift_fresh : ∀ courierId, (shift courierId).assignments = 0

/-- The signal of a command of an order: it asks its region for a courier. -/
def orderPost : Order.Command → Option (String × Message)
  | .signalOrderReady dispatchWfId ready => some (dispatchWfId, .dispatch (.orderReady ready))
  | _ => none

/-- The signal of a command of a region: it replies to the order. -/
def dispatchPost : Dispatch.Command → Option (String × Message)
  | .signalCourierAssigned orderWfId courier =>
      some (orderWfId, .order (.courierAssigned courier))
  | _ => none

/-- The signal of a command of a shift: it reports its courier to the region. -/
def shiftPost : Courier.Command → Option (String × Message)
  | .signalCourierAvailable dispatchWfId avail =>
      some (dispatchWfId, .dispatch (.courierAvailable avail))
  | _ => none

/-- What the generator signals: a degradation to a region, and pings, assignments and
ends of shifts to couriers. -/
def generatorSignals (request : String × Message) : Bool :=
  match request.2 with
  | .dispatch (.setDegradation _) => true
  | .courier _ => true
  | _ => false

/-- What reads neither degradations nor signals to couriers reads nothing of the generator. -/
theorem ignored_of_generator {reads : String × Message → Bool}
    (degradation : ∀ wfId degr, reads (wfId, .dispatch (.setDegradation degr)) = false)
    (courier : ∀ wfId signal, reads (wfId, .courier signal) = false)
    (request : String × Message) (allowed : generatorSignals request = true) :
    reads request = false := by
  obtain ⟨wfId, message⟩ := request
  cases message with
  | order signal => cases allowed
  | courier signal => exact courier wfId signal
  | dispatch signal =>
      cases signal with
      | setDegradation degr => exact degradation wfId degr
      | orderReady | courierAvailable => cases allowed

namespace Fleet

variable (fleet : Fleet)

/-- The parties of the fleet. `ensure_entities` starts a region with empty queues. -/
def party : Address → Party String Message
  | .order orderId =>
      Order.orderWorkflow.party (fleet.order orderId) (orderWfId orderId) .order orderPost
  | .dispatch region _ =>
      Dispatch.dispatchWorkflow.party { region } (dispatchId region) .dispatch dispatchPost
  | .shift courierId =>
      Courier.courierWorkflow.party (fleet.shift courierId) (courierWfId courierId) .courier
        shiftPost

/-- The fleet as it can be after any interleaving of its steps. -/
abbrev Reached (net : Net fleet.party) : Prop :=
  Net.Reached (fun request => generatorSignals request = true) net

end Fleet

section Views

variable {fleet : Fleet} (net : Net fleet.party)

def order (orderId : String) : Order.orderWorkflow.Execution (fleet.order orderId) :=
  net.state (.order orderId)

def dispatch (region : String) (execution : Nat) :
    Dispatch.dispatchWorkflow.Execution { region } :=
  net.state (.dispatch region execution)

def shift (courierId : String) : Courier.courierWorkflow.Execution (fleet.shift courierId) :=
  net.state (.shift courierId)

/-- The `assign_courier` calls of an execution of a region. -/
def assignmentsAt : Address → List Dispatch.Assignment
  | .dispatch region execution => Dispatch.assignments (dispatch net region execution).trace
  | _ => []

/-- An order sends its requests. -/
theorem sentBy_order (orderId : String) :
    net.sentBy (.order orderId) = (Order.requests (order net orderId).trace).map fun request =>
      (request.1, .dispatch (.orderReady request.2)) := by
  refine collect_posting (fun event => ?_) (order net orderId).trace
  cases event with
  | issued command => cases command <;> rfl
  | _ => rfl

/-- A region sends its replies. -/
theorem sentBy_dispatch (region : String) (execution : Nat) :
    net.sentBy (.dispatch region execution) =
      (Dispatch.replies (dispatch net region execution).trace).map fun reply =>
        (reply.1, .order (.courierAssigned reply.2)) := by
  refine collect_posting (fun event => ?_) (dispatch net region execution).trace
  cases event with
  | issued command => cases command <;> rfl
  | _ => rfl

/-- A shift sends its reports. -/
theorem sentBy_shift (courierId : String) :
    net.sentBy (.shift courierId) =
      (Courier.reportsTo (shift net courierId).trace).map fun report =>
        (report.1, .dispatch (.courierAvailable report.2)) := by
  refine collect_posting (fun event => ?_) (shift net courierId).trace
  cases event with
  | issued command => cases command <;> rfl
  | _ => rfl

/-- An order takes in the couriers assigned to it. -/
theorem received_order (orderId : String) :
    net.received (.order orderId) =
      (Order.couriersAssigned (order net orderId).trace).map fun courierId =>
        (orderWfId orderId, .order (.courierAssigned courierId)) := by
  change ((collect receipt (order net orderId).trace).map Message.order).map
    (Prod.mk (orderWfId orderId)) = _
  rw [List.map_map, Order.couriersAssigned, collect, collect, List.map_filterMap,
    List.map_filterMap]
  refine List.filterMap_congr fun event _ => ?_
  cases event <;> rfl

/-- A region takes in its signals. -/
theorem received_dispatch (region : String) (execution : Nat) :
    net.received (.dispatch region execution) =
      (collect receipt (dispatch net region execution).trace).map fun signal =>
        (dispatchId region, .dispatch signal) :=
  List.map_map

end Views

/-- One turn of a schedule of the fleet. -/
inductive Turn where
  | generator (request : String × Message)
  | order (orderId : String) (activation : Activation Order.Signal)
  | dispatch (region : String) (execution : Nat) (activation : Activation Dispatch.Signal)
  | shift (courierId : String) (activation : Activation Courier.Signal)

/-- Take a turn, where the schedule fits: an activation hands over what is under way. -/
def turn {fleet : Fleet} (net : Net fleet.party) : Turn → Option (Net fleet.party)
  | .generator request =>
      if generatorSignals request then some (net.post none [request]) else none
  | .order orderId activation =>
      ((order net orderId).activate 20 activation).bind fun ended =>
        net.turn (.order orderId) (activation.signals.map .order)
          (collect (posting orderPost) ended.2) ended.1
  | .dispatch region execution activation =>
      ((dispatch net region execution).activate 20 activation).bind fun ended =>
        net.turn (.dispatch region execution) (activation.signals.map .dispatch)
          (collect (posting dispatchPost) ended.2) ended.1
  | .shift courierId activation =>
      ((shift net courierId).activate 20 activation).bind fun ended =>
        net.turn (.shift courierId) (activation.signals.map .courier)
          (collect (posting shiftPost) ended.2) ended.1

/-- Run a schedule of the fleet from where no one has started yet. -/
def Fleet.replay (fleet : Fleet) (schedule : List Turn) : Option (Net fleet.party) :=
  schedule.foldlM turn { state := fun address => (fleet.party address).start }

theorem Fleet.Reached.turn {fleet : Fleet} {net next : Net fleet.party}
    (reached : fleet.Reached net) {scheduled : Turn}
    (turned : Delivery.turn net scheduled = some next) : fleet.Reached next := by
  cases scheduled with
  | generator request =>
      obtain ⟨allowed, same⟩ := Option.ite_none_right_eq_some.mp turned
      cases same
      exact .step reached (.posts allowed)
  | order orderId activation =>
      obtain ⟨ended, activated, taken⟩ := Option.bind_eq_some_iff.mp turned
      refine Net.Reached.turn reached ?_ taken
      exact Workflow.Execution.moves_of_activate activated _ _ orderPost
  | dispatch region execution activation =>
      obtain ⟨ended, activated, taken⟩ := Option.bind_eq_some_iff.mp turned
      refine Net.Reached.turn reached ?_ taken
      exact Workflow.Execution.moves_of_activate activated _ _ dispatchPost
  | shift courierId activation =>
      obtain ⟨ended, activated, taken⟩ := Option.bind_eq_some_iff.mp turned
      refine Net.Reached.turn reached ?_ taken
      exact Workflow.Execution.moves_of_activate activated _ _ shiftPost

/-- What a schedule computes can be reached. -/
theorem Fleet.Reached.of_replay (fleet : Fleet) (schedule : List Turn) {net : Net fleet.party}
    (ran : fleet.replay schedule = some net) : fleet.Reached net := by
  have along : ∀ (schedule : List Turn) (first : Net fleet.party), fleet.Reached first →
      schedule.foldlM Delivery.turn first = some net → fleet.Reached net := by
    intro schedule
    induction schedule with
    | nil =>
        rintro first reached ⟨rfl⟩
        exact reached
    | cons scheduled rest ih =>
        intro first reached ran
        rw [List.foldlM_cons] at ran
        obtain ⟨next, turned, later⟩ := Option.bind_eq_some_iff.mp ran
        exact ih next (reached.turn turned) later
  exact along schedule _ .start ran

/-- What a schedule shows of the fleet it computes is shown by a fleet that can be reached. -/
theorem Fleet.Reached.exists_of_replay {α : Type} (fleet : Fleet) (schedule : List Turn)
    (shows : Net fleet.party → α) (shown : α)
    (ran : (fleet.replay schedule).map shows = some shown) :
    ∃ net, fleet.Reached net ∧ shows net = shown := by
  obtain ⟨net, replayed, same⟩ := Option.map_eq_some_iff.mp ran
  exact ⟨net, .of_replay fleet schedule replayed, same⟩

/-- A fleet whose orders and shifts are all in one region. -/
def westernFleet : Fleet where
  order orderId := { orderId, region := "us-west", restaurantId := "rest-1" }
  shift courierId := { courierId, region := "us-west" }
  order_id _ := rfl
  shift_id _ := rfl
  shift_fresh _ := rfl

/-- A courier accepts an assignment and is reported; an order asks, and that courier is
assigned to it. -/
def untilAssigned : List Turn :=
  [.generator (courierWfId "7-ab", .courier (.assignment "a1")),
    .shift "7-ab" ⟨[.assignment "a1"], none, 3⟩, .shift "7-ab" ⟨[], some .activityCompleted, 9⟩,
    .dispatch "us-west" 1 ⟨[], none, 3⟩,
    .dispatch "us-west" 1 ⟨[.courierAvailable ⟨"7-ab", "us-west"⟩], none, 7⟩,
    .order "o1" ⟨[], none, 3⟩, .order "o1" ⟨[], some .activityCompleted, 9⟩,
    .order "o1" ⟨[], some .activityCompleted, 15⟩, .order "o1" ⟨[], some .activityCompleted, 21⟩,
    .order "o1" ⟨[], some .timerFired, 25⟩, .order "o1" ⟨[], some .activityCompleted, 31⟩,
    .order "o1" ⟨[], some .timerFired, 36⟩, .order "o1" ⟨[], some .signalSent, 41⟩,
    .dispatch "us-west" 1 ⟨[.orderReady ⟨"o1", "order-o1", "us-west"⟩], none, 12⟩,
    .dispatch "us-west" 1 ⟨[], some .activityCompleted, 18⟩]

end WardenDemo.Delivery
