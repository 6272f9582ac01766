import WardenDemo.Dispatch.Matching

/-!
# What a region replies

A region signals an order back after each `assign_courier` call, with the courier
of that call. It never closes, and it assigns no order it was not asked for.
-/

namespace WardenDemo.Dispatch

open Durable

/-- What is signalled back for an assignment. -/
def Assignment.reply (assignment : Assignment) : String × String :=
  (assignment.order.orderWfId, assignment.courier.id)

def replied : Event → Option (String × String)
  | .issued (.signalCourierAssigned orderWfId courier) => some (orderWfId, courier)
  | _ => none

/-- The `courier_assigned` signals of a trace, in the order issued. -/
def replies (trace : List Event) : List (String × String) := collect replied trace

/-- The reply an assignment in progress, or just completed, still owes. -/
def owed : Pc → List (String × String)
  | .awaitAssign order courier | .reply order courier => [(order.orderWfId, courier.id)]
  | _ => []

/-- Every assignment has been replied to, or is the one in progress. -/
def Replied (trace : List Event) (pc : Pc) : Prop :=
  (assignments trace).map Assignment.reply = replies trace ++ owed pc

/-- A pass drains one order at a time, so nothing is owed where it takes the next one. -/
def repliesOwed (start : DispatchState) : dispatchWorkflow.Invariant start where
  Idle trace pc _ _ := Replied trace pc
  Busy trace pc _ _ := Replied trace pc
  initial := rfl
  handled _ holds := by simpa [Replied, assignments, assignment, replies, replied] using holds
  advanced holds _ := by simpa [Replied, assignments, assignment, replies, replied] using holds
  resolved holds _ resumed := by
    cases resumes_of_resume resumed <;>
      simpa [Replied, assignments, assignment, replies, replied, owed] using holds
  proceeds holds stepped := by
    cases proceeds_of_step stepped <;>
      simp_all [Replied, assignments, assignment, replies, replied, owed, Assignment.reply]
  suspends holds _ := holds
  continues holds stepped := by
    obtain ⟨rfl, _, rfl, rfl⟩ := continues_of_step stepped
    simpa [Replied, assignments, assignment, replies, replied, owed] using holds

section Chains

variable {start : DispatchState} {trace : List Event} {config : Config}

theorem not_fails {history : Nat} {pc : Pc} {self : DispatchWorkflow} :
    DispatchWorkflow.step history pc self ≠ .fail := by
  intro stepped
  have taken := takes_step history pc self
  rw [stepped] at taken
  cases taken

/-- A region never closes. -/
theorem running_of_chain (chain : dispatchWorkflow.Chain start trace config) :
    ∃ pc self history, config = .running pc self history := by
  cases config with
  | running pc self history => exact ⟨pc, self, history, rfl⟩
  | completed result => exact result.elim
  | failed =>
      obtain ⟨_, _, _, _, _, _, stepped⟩ := (repliesOwed start).of_chain chain
      exact absurd stepped not_fails

/-- Every reply is the reply to an assignment, and no assignment is replied to twice. -/
theorem replies_prefix (chain : dispatchWorkflow.Chain start trace config) :
    replies trace <+: (assignments trace).map Assignment.reply := by
  obtain ⟨pc, _, _, rfl⟩ := running_of_chain chain
  have owes : Replied trace pc := (repliesOwed start).of_running chain
  exact ⟨owed pc, owes.symm⟩

/-- A region which starts with empty queues assigns orders it was asked for, and couriers
reported to it, each as often as it handled them at most. -/
theorem assigned_of_handled (empty : start.pendingOrders = [] ∧ start.availableCouriers = [])
    (chain : dispatchWorkflow.Chain start trace config) :
    ((assignments trace).map Assignment.order).Sublist (ordersReady trace) ∧
      (pooledCouriers trace).Sublist (couriersAvailable trace) := by
  obtain ⟨pc, self, history, rfl⟩ := running_of_chain chain
  have orders : OrdersAccounted start trace pc self := (ordersAccounted start).of_running chain
  have couriers := ((couriersFed start).of_running chain).1
  have kept : (collect keptOrder trace).Sublist (ordersReady trace) :=
    collect_sublist trace fun event => (keptOrder_shares event).symm.imp And.left And.left
  unfold OrdersAccounted at orders
  unfold CouriersFed at couriers
  rw [empty.1, List.nil_append] at orders
  rw [empty.2, List.nil_append] at couriers
  exact ⟨(orders.feeds_of_sublist kept).consumed_sublist, couriers.consumed_sublist⟩

end Chains

end WardenDemo.Dispatch
