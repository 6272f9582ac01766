import WardenDemo.Dispatch.Conservation

/-!
# FIFO matching

Orders and couriers leave their queues in the order they came, each occurrence
at most once, and a courier is made up only over an empty pool. The courier pool
is truncated at continue-as-new and overwritten by `run`, so it feeds the
assignments without accounting for every report.
-/

namespace WardenDemo.Dispatch

open Durable

/-- The courier an event reports, if it is a `courier_available`. -/
def reportedCourier : Event → Option String
  | .handled _ _ (.courierAvailable avail) => some avail.courierId
  | _ => none

/-- The `courier_available` signals of a trace, in the order handled. -/
def couriersAvailable (trace : List Event) : List String := collect reportedCourier trace

/-- The courier an event takes out of the pool. -/
def pooledCourier : Event → Option String
  | .issued (.assignCourier ⟨_, .pooled courierId, _⟩) => some courierId
  | _ => none

/-- The couriers of the `assign_courier` calls that were not made up. -/
def pooledCouriers (trace : List Event) : List String := collect pooledCourier trace

def heldCouriers : Pc → DispatchWorkflow → List String
  | .entry state, _ => state.availableCouriers
  | _, self => self.couriers

/-- The couriers reported feed the calls and the pool. -/
def CouriersFed (start : DispatchState) (trace : List Event) (pc : Pc)
    (self : DispatchWorkflow) : Prop :=
  Feeds (start.availableCouriers ++ couriersAvailable trace) (pooledCouriers trace)
    (heldCouriers pc self)

/-- Every made-up courier was made up over an empty pool. -/
def SyntheticOverEmpty (trace : List Event) : Prop :=
  ∀ assigned ∈ assignments trace, assigned.courier.isSynthetic = true → assigned.pool = []

section Steps

attribute [local simp] reportedCourier couriersAvailable pooledCourier pooledCouriers
  heldCouriers assignments assignment

variable {start : DispatchState} {trace : List Event} {pc next : Pc}
  {self self' : DispatchWorkflow} {history : Nat} {commands : List Command}

/-- A report joins the pool, unless `run` has yet to overwrite it. -/
theorem CouriersFed.handled (holds : CouriersFed start trace pc self) (signal : Signal) :
    CouriersFed start (trace ++ [.handled pc self signal]) pc (self.handle signal) := by
  unfold CouriersFed at holds ⊢
  cases signal with
  | courierAvailable avail =>
      cases pc with
      | entry state => simpa using holds.produce avail.courierId
      | _ => simpa [DispatchWorkflow.handle] using holds.push avail.courierId
  | orderReady _ | setDegradation _ =>
      cases pc <;> simpa [DispatchWorkflow.handle] using holds

theorem CouriersFed.proceeds (holds : CouriersFed start trace pc self)
    (stepped : Proceeds history pc self next self' commands) :
    CouriersFed start (trace ++ commands.map .issued) next self' := by
  unfold CouriersFed at holds ⊢
  cases stepped with
  | entry => simpa [DispatchWorkflow.initialise] using holds
  | assigns _ pool =>
      simp only [heldCouriers, pool] at holds
      simpa using holds.pop
  | synthesises _ pool =>
      simp only [heldCouriers, pool] at holds
      simpa using holds
  | _ => simpa using holds

theorem CouriersFed.resumes (holds : CouriersFed start trace pc self)
    (resumed : Resumes pc next) : CouriersFed start trace next self := by
  cases resumed <;> exact holds

/-- Continue-as-new carries the last fifty couriers of the pool. -/
theorem CouriersFed.continues (holds : CouriersFed start trace .checkContinue self) :
    CouriersFed start trace (.entry self.carry) {} :=
  Feeds.drop holds (List.drop_sublist _ _)

/-- An assignment is checked against the pool its order was popped over. -/
theorem SyntheticOverEmpty.assigned (holds : SyntheticOverEmpty trace) (assigned : Assignment)
    (over_empty : assigned.courier.isSynthetic = true → assigned.pool = []) :
    SyntheticOverEmpty (trace ++ [.issued (.assignCourier assigned)]) := by
  intro other member made
  rw [assignments_assigned, List.mem_append, List.mem_singleton] at member
  rcases member with earlier | rfl
  · exact holds other earlier made
  · exact over_empty made

theorem SyntheticOverEmpty.proceeds (holds : SyntheticOverEmpty trace)
    (stepped : Proceeds history pc self next self' commands) :
    SyntheticOverEmpty (trace ++ commands.map .issued) := by
  cases stepped with
  | assigns _ _ =>
      refine holds.assigned _ ?_
      intro made
      cases made
  | synthesises _ _ => exact holds.assigned _ fun _ => rfl
  | _ => simpa [SyntheticOverEmpty] using holds

/-- The courier pool along every chain. -/
def couriersFed (start : DispatchState) : dispatchWorkflow.Invariant start where
  Idle trace pc self _ := CouriersFed start trace pc self ∧ SyntheticOverEmpty trace
  Busy trace pc self _ := CouriersFed start trace pc self ∧ SyntheticOverEmpty trace
  initial := by simp [CouriersFed, Feeds, SyntheticOverEmpty]
  handled signal holds :=
    ⟨holds.1.handled signal, by simpa [SyntheticOverEmpty] using holds.2⟩
  advanced holds _ := by simpa [CouriersFed, SyntheticOverEmpty] using holds
  resolved holds _ resumed := by
    have fed := holds.1.resumes (resumes_of_resume resumed)
    exact ⟨by simpa [CouriersFed] using fed, by simpa [SyntheticOverEmpty] using holds.2⟩
  proceeds holds stepped :=
    ⟨holds.1.proceeds (proceeds_of_step stepped), holds.2.proceeds (proceeds_of_step stepped)⟩
  suspends holds _ := holds
  continues holds stepped := by
    obtain ⟨rfl, _, rfl, rfl⟩ := continues_of_step stepped
    have fed := holds.1.continues
    exact ⟨by simpa [CouriersFed] using fed, by simpa [SyntheticOverEmpty] using holds.2⟩

end Steps

/-- Dispatch matching is FIFO and at most once, over every chain: the orders
assigned are a subsequence of the orders handled, the couriers taken from the
pool a subsequence of those reported, and a courier is made up only when the
pool is empty. The queues a chain is started with come first. -/
theorem matching_fifo {start : DispatchState} {trace : List Event} {pc : Pc}
    {self : DispatchWorkflow} {history : Nat}
    (chain : dispatchWorkflow.Chain start trace (.running pc self history)) :
    ((assignments trace).map Assignment.order).Sublist
        (start.pendingOrders ++ ordersReady trace) ∧
      (pooledCouriers trace).Sublist
        (start.availableCouriers ++ couriersAvailable trace) ∧
      ∀ assigned ∈ assignments trace,
        assigned.courier.isSynthetic = true → assigned.pool = [] := by
  have orders : OrdersAccounted start trace pc self := (ordersAccounted start).of_running chain
  have couriers := (couriersFed start).of_running chain
  have kept : (collect keptOrder trace).Sublist (ordersReady trace) :=
    collect_sublist trace fun event => (keptOrder_shares event).symm.imp And.left And.left
  have fed := orders.feeds_of_sublist ((List.Sublist.refl start.pendingOrders).append kept)
  exact ⟨fed.consumed_sublist, couriers.1.consumed_sublist, couriers.2⟩

/-- Two orders over a pool of one courier: the second one gets a made-up courier. -/
theorem matching_fifo_of_two :
    ∃ trace self, dispatchWorkflow.Chain { region := "us-west" } trace
        (.running (.awaitAssign ⟨"o2", "order-o2"⟩ (.synthetic "us-west" 1)) self 19) ∧
      ((assignments trace).map Assignment.order).Sublist (ordersReady trace) ∧
      (pooledCouriers trace).Sublist (couriersAvailable trace) ∧
      pooledCouriers trace = ["c1"] ∧
      ∀ assigned ∈ assignments trace,
        assigned.courier.isSynthetic = true → assigned.pool = [] := by
  have chain := Workflow.Chain.of_replay dispatchWorkflow 10 { region := "us-west" }
    [⟨[], none, 3⟩,
     ⟨[.courierAvailable ⟨"c1", "us-west"⟩, .orderReady ⟨"o1", "order-o1", "us-west"⟩,
       .orderReady ⟨"o2", "order-o2", "us-west"⟩], none, 8⟩,
     ⟨[], some .activityCompleted, 14⟩, ⟨[], some .signalSent, 19⟩] rfl
  have fifo := matching_fifo chain
  exact ⟨_, _, chain, fifo.1, fifo.2.1, rfl, fifo.2.2⟩

end WardenDemo.Dispatch
