import WardenDemo.Dispatch.Transitions
import WardenDemo.Durable.Queue
import WardenDemo.Durable.Schedule
import WardenDemo.Durable.Trace

/-!
# Conservation of orders

The orders a chain was given are accounted for by the `assign_courier` calls and
the queue, exactly and in order, once the orders handled in the first activation
of a run are set aside: `run` overwrites `_pending` and forgets those.
-/

namespace WardenDemo.Dispatch

open Durable

/-- The order an event puts into a region, if it is an `order_ready`. -/
def readyOrder : Event → Option PendingOrder
  | .handled _ _ (.orderReady ready) => some ⟨ready.orderId, ready.orderWfId⟩
  | _ => none

/-- The same, but for signals handled before the first statement of `run`. -/
def keptOrder : Event → Option PendingOrder
  | .handled (.entry _) _ _ => none
  | event => readyOrder event

def assignment : Event → Option Assignment
  | .issued (.assignCourier assigned) => some assigned
  | _ => none

/-- The `order_ready` signals of a trace, in the order handled. -/
def ordersReady (trace : List Event) : List PendingOrder := collect readyOrder trace

/-- The `assign_courier` calls of a trace, in progress or done. -/
def assignments (trace : List Event) : List Assignment := collect assignment trace

theorem assignments_assigned (trace : List Event) (assigned : Assignment) :
    assignments (trace ++ [.issued (.assignCourier assigned)]) =
      assignments trace ++ [assigned] := by
  simp [assignments, assignment]

/-- The orders a run still holds: `_pending`, or before the first statement of
`run` the `pending_orders` carried to it. -/
def heldOrders : Pc → DispatchWorkflow → List PendingOrder
  | .entry state, _ => state.pendingOrders
  | _, self => self.pending

/-- The kept orders account for the assigned and the held ones. -/
def OrdersAccounted (start : DispatchState) (trace : List Event) (pc : Pc)
    (self : DispatchWorkflow) : Prop :=
  Accounts (start.pendingOrders ++ collect keptOrder trace)
    ((assignments trace).map Assignment.order) (heldOrders pc self)

section Steps

attribute [local simp] keptOrder readyOrder assignments assignment heldOrders

variable {start : DispatchState} {trace : List Event} {pc next : Pc}
  {self self' : DispatchWorkflow} {history : Nat} {commands : List Command}

/-- A handler queues its order, unless `run` has yet to overwrite the queue. -/
theorem OrdersAccounted.handled (holds : OrdersAccounted start trace pc self)
    (signal : Signal) :
    OrdersAccounted start (trace ++ [.handled pc self signal]) pc (self.handle signal) := by
  unfold OrdersAccounted at holds ⊢
  cases pc with
  | entry state => simpa using holds
  | _ =>
      cases signal with
      | orderReady ready =>
          simpa [DispatchWorkflow.handle] using holds.push ⟨ready.orderId, ready.orderWfId⟩
      | courierAvailable _ => simpa [DispatchWorkflow.handle] using holds
      | setDegradation _ => simpa [DispatchWorkflow.handle] using holds

/-- A program point moves an order from the queue to an `assign_courier` call,
or moves none. -/
theorem OrdersAccounted.proceeds (holds : OrdersAccounted start trace pc self)
    (stepped : Proceeds history pc self next self' commands) :
    OrdersAccounted start (trace ++ commands.map .issued) next self' := by
  unfold OrdersAccounted at holds ⊢
  cases stepped with
  | entry => simpa [DispatchWorkflow.initialise] using holds
  | assigns head _ =>
      simp only [heldOrders, head] at holds
      simpa using holds.pop
  | synthesises head _ =>
      simp only [heldOrders, head] at holds
      simpa using holds.pop
  | _ => simpa using holds

/-- Resolving an await moves no order. -/
theorem OrdersAccounted.resumes (holds : OrdersAccounted start trace pc self)
    (resumed : Resumes pc next) : OrdersAccounted start trace next self := by
  cases resumed <;> exact holds

/-- Every order a region keeps is assigned or held, in the order handled. -/
def ordersAccounted (start : DispatchState) : dispatchWorkflow.Invariant start where
  Idle trace pc self _ := OrdersAccounted start trace pc self
  Busy trace pc self _ := OrdersAccounted start trace pc self
  initial := by simp [OrdersAccounted, Accounts]
  handled signal holds := holds.handled signal
  advanced holds _ := by simpa [OrdersAccounted] using holds
  resolved holds _ resumed := by
    simpa [OrdersAccounted] using holds.resumes (resumes_of_resume resumed)
  proceeds holds stepped := holds.proceeds (proceeds_of_step stepped)
  suspends holds _ := holds
  continues holds stepped := by
    obtain ⟨rfl, _, rfl, rfl⟩ := continues_of_step stepped
    simpa [OrdersAccounted, DispatchWorkflow.carry] using holds

end Steps

/-- An `order_ready` handled before the first statement of `run`. -/
def earlyOrder : Event → Option PendingOrder
  | .handled (.entry _) _ (.orderReady ready) => some ⟨ready.orderId, ready.orderWfId⟩
  | _ => none

/-- The orders delivered with the first activation of some run of the chain. -/
def ordersBeforeRun (trace : List Event) : List PendingOrder := collect earlyOrder trace

/-- An order comes before `run` begins, or is kept. -/
theorem keptOrder_shares (event : Event) :
    (keptOrder event = readyOrder event ∧ earlyOrder event = none) ∨
      (keptOrder event = none ∧ earlyOrder event = readyOrder event) := by
  cases event with
  | handled pc self signal =>
      cases pc with
      | entry state =>
          cases signal with
          | orderReady _ => exact Or.inr ⟨rfl, rfl⟩
          | courierAvailable _ => exact Or.inl ⟨rfl, rfl⟩
          | setDegradation _ => exact Or.inl ⟨rfl, rfl⟩
      | _ => exact Or.inl ⟨rfl, rfl⟩
  | _ => exact Or.inl ⟨rfl, rfl⟩

/-- Every order handled by any run of a chain is accounted for exactly once, by
an `assign_courier` call or by the queue, if and only if none was handled in the
first activation of a run. -/
theorem orders_conserved_iff {start : DispatchState} {trace : List Event} {pc : Pc}
    {self : DispatchWorkflow} {history : Nat}
    (chain : dispatchWorkflow.Chain start trace (.running pc self history)) :
    (start.pendingOrders ++ ordersReady trace).Perm
        ((assignments trace).map Assignment.order ++ heldOrders pc self) ↔
      ordersBeforeRun trace = [] := by
  have accounted : OrdersAccounted start trace pc self := (ordersAccounted start).of_running chain
  unfold OrdersAccounted Accounts at accounted
  have shared : (ordersReady trace).Perm (collect keptOrder trace ++ ordersBeforeRun trace) :=
    collect_perm trace keptOrder_shares
  rw [← accounted, List.perm_append_left_iff]
  constructor
  · intro conserved
    have lengths := (shared.symm.trans conserved).length_eq
    rw [List.length_append] at lengths
    exact List.eq_nil_of_length_eq_zero (by omega)
  · intro none
    rwa [none, List.append_nil] at shared

/-- Two orders reach a running region: one is being assigned, the other queued. -/
theorem orders_conserved_of_two :
    ∃ trace self, dispatchWorkflow.Chain { region := "us-west" } trace
        (.running (.awaitAssign ⟨"o1", "order-o1"⟩ (.synthetic "us-west" 0)) self 7) ∧
      (ordersReady trace).Perm ((assignments trace).map Assignment.order ++ self.pending) := by
  have chain := Workflow.Chain.of_replay dispatchWorkflow 10 { region := "us-west" }
    [⟨[], none, 3⟩, ⟨[.orderReady ⟨"o1", "order-o1", "us-west"⟩,
      .orderReady ⟨"o2", "order-o2", "us-west"⟩], none, 7⟩] rfl
  exact ⟨_, _, chain, (orders_conserved_iff chain).mpr rfl⟩

/-- An order delivered with the first activation of a run is neither queued nor
assigned: `run` overwrites the queue its handler has appended to. -/
theorem order_lost_before_run :
    ∃ trace self, dispatchWorkflow.Chain { region := "us-west" } trace
        (.running .wait self 3) ∧
      ordersReady trace = [⟨"o1", "order-o1"⟩] ∧
      ¬ (ordersReady trace).Perm ((assignments trace).map Assignment.order ++ self.pending) := by
  have chain := Workflow.Chain.of_replay dispatchWorkflow 10 { region := "us-west" }
    [⟨[.orderReady ⟨"o1", "order-o1", "us-west"⟩], none, 3⟩] rfl
  refine ⟨_, _, chain, rfl, ?_⟩
  intro conserved
  exact absurd conserved.length_eq (by decide)

end WardenDemo.Dispatch
