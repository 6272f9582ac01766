import WardenDemo.Dispatch.Replies
import WardenDemo.Durable.Deadline

/-!
# No order starves

An order in the queue of a region is assigned after a number of resolved awaits which its
place in the queue and the inflation in progress determine. Signals cannot put it off:
later orders queue behind it, and a changed degradation is not looked at before the queue
is empty.
-/

namespace WardenDemo.Dispatch

open Durable

def Command.assigns : Command → Bool
  | .assignCourier _ => true
  | _ => false

/-- The awaits of one inflate pass, if a degradation asks for any. -/
def inflateAwaits (degr : Degradation) : Nat :=
  if degr.inflateHistory then DispatchWorkflow.inflateRounds degr + 1 else 0

/-- The awaits between a program point and the next drained order. -/
def Pc.awaits (self : DispatchWorkflow) : Pc → Nat
  | .entry state => inflateAwaits (state.degradation.getD {})
  | .loop | .checkContinue => inflateAwaits self.degr
  | .inflate remaining => remaining + 1
  | .awaitMarker remaining => remaining + 2
  | .awaitSleep => 1
  | .wait | .publish | .drain | .assigned => 0
  | .awaitAssign _ _ => 2
  | .reply _ _ => 1
  | .awaitReply => 1

/-- A place in the queue which is filled, and reached within a number of awaits: an order
takes two, one to be assigned and one to be told its courier. -/
def Queued (ahead budget : Nat) (pc : Pc) (self : DispatchWorkflow) : Prop :=
  ahead < (heldOrders pc self).length ∧ pc.awaits self + 2 * ahead ≤ budget

/-- Where a region with a queue is found between two activations. -/
def Pc.rests : Pc → Bool
  | .loop | .checkContinue | .wait => false
  | _ => true

section Steps

variable {ahead budget history : Nat} {pc next : Pc} {self self' : DispatchWorkflow}
  {commands : List Command}

/-- A handler only lengthens the queue, and is not looked at where a region rests. -/
theorem Queued.handled (rests : pc.rests = true) (queued : Queued ahead budget pc self)
    (signal : Signal) : Queued ahead budget pc (self.handle signal) := by
  obtain ⟨filled, within⟩ := queued
  have same : pc.awaits (self.handle signal) = pc.awaits self := by
    cases pc <;> first | rfl | cases rests
  refine ⟨Nat.lt_of_lt_of_le filled ?_, by rwa [same]⟩
  cases pc with
  | entry state => exact Nat.le_refl _
  | _ => cases signal <;> simp [heldOrders, DispatchWorkflow.handle]

theorem Queued.resumes (queued : Queued ahead budget pc self) (resumed : Resumes pc next) :
    ∃ less < budget, Queued ahead less next self := by
  obtain ⟨filled, within⟩ := queued
  refine ⟨budget - 1, ?_, ?_, ?_⟩
  all_goals
    cases resumed <;> simp only [Pc.awaits, heldOrders] at filled within ⊢ <;> omega

/-- Assigning the head of the queue moves the rest up, by the two awaits it takes. -/
theorem Queued.drains {order : PendingOrder} {rest : List PendingOrder} {courier : Courier}
    (queued : Queued ahead budget .drain self) (head : self.pending = order :: rest)
    (taken : self'.pending = rest) : ahead < 1 ∨
      ∃ fewer, ahead = 1 + fewer ∧ Queued fewer budget (.awaitAssign order courier) self' := by
  obtain ⟨filled, within⟩ := queued
  have length : (heldOrders .drain self).length = rest.length + 1 := congrArg List.length head
  cases ahead with
  | zero => exact Or.inl Nat.zero_lt_one
  | succ fewer =>
      refine Or.inr ⟨fewer, Nat.add_comm _ _, ?_, ?_⟩
      · rw [heldOrders, taken]
        · omega
        · simp
      · simp only [Pc.awaits] at within ⊢
        omega

/-- A program point assigns the head of the queue, or comes no later to the rest of it. -/
theorem Queued.proceeds (queued : Queued ahead budget pc self)
    (stepped : Proceeds history pc self next self' commands) :
    ahead < commands.countP Command.assigns ∨
      ∃ fewer, ahead = commands.countP Command.assigns + fewer ∧
        Queued fewer budget next self' := by
  obtain ⟨filled, within⟩ := queued
  cases stepped with
  | assigns head _ | synthesises head _ => exact Queued.drains ⟨filled, within⟩ head rfl
  | drained empty =>
      have length : (heldOrders .drain self).length = 0 := congrArg List.length empty
      omega
  | entry => exact Or.inr ⟨ahead, by simp, filled, within⟩
  | inflates on =>
      refine Or.inr ⟨ahead, by simp, filled, ?_⟩
      simpa [Pc.awaits, inflateAwaits, on] using within
  | waits off =>
      refine Or.inr ⟨ahead, by simp, filled, ?_⟩
      simpa [Pc.awaits, inflateAwaits, off] using within
  | publishes _ => exact Or.inr ⟨ahead, by simp [Command.assigns], filled, within⟩
  | _ => exact Or.inr ⟨ahead, by simp [Command.assigns], filled, within⟩

/-- A region with a queue is never left in its wait. -/
theorem Queued.suspends (queued : Queued ahead budget pc self)
    (stepped : DispatchWorkflow.step history pc self = .suspend) : pc.rests = true := by
  rcases suspends_of_step stepped with
    ⟨_, rfl⟩ | rfl | ⟨rfl, asleep⟩ | ⟨_, _, rfl⟩ | rfl
  case inr.inr.inl =>
      have filled : self.pending ≠ [] := List.ne_nil_of_length_pos (Nat.zero_lt_of_lt queued.1)
      have awake : self.wakes history = true := by
        simp [DispatchWorkflow.wakes, filled]
      rw [asleep] at awake
      cases awake
  all_goals rfl

end Steps

/-- The deadlines of the orders in the queue of a region. -/
def assignDeadline : dispatchWorkflow.Deadline Command.assigns where
  Idle ahead budget pc self := pc.rests = true ∧ Queued ahead budget pc self
  Busy := Queued
  handled signal idle := ⟨idle.1, idle.2.handled idle.1 signal⟩
  woken idle := idle.2
  resumed idle resumed := idle.2.resumes (resumes_of_resume resumed)
  proceeds busy stepped := busy.proceeds (proceeds_of_step stepped)
  suspends busy stepped := ⟨busy.suspends stepped, busy⟩
  continues {_ _ _ pc _ _ _} busy stepped := by
    obtain ⟨rfl, _, rfl, rfl⟩ := continues_of_step stepped
    exact ⟨rfl, rfl, busy⟩
  returns {_ _ _ _ _ result} _ _ := result.elim
  lasts _ stepped := not_fails stepped

theorem length_metered_assigns (trace : List Event) :
    (metered Command.assigns trace).length = (assignments trace).length := by
  induction trace with
  | nil => rfl
  | cons event rest ih =>
      rw [metered, assignments] at ih ⊢
      rw [collect_cons, collect_cons, List.length_append, List.length_append, ih]
      congr 1
      cases event with
      | issued command => cases command <;> rfl
      | _ => rfl

/-- An order in the queue of a region is assigned in its turn. However the region is run
and signalled from then on, either it has been, right after the orders before it, or it has
come up in the queue and the region is at an await it reaches the order from: each resolved
await is one less to go. -/
theorem order_never_starves {start : DispatchState} {trace events : List Event} {pc : Pc}
    {self : DispatchWorkflow} {history : Nat} {config : Config} {order : PendingOrder}
    {before after : List PendingOrder}
    (chain : dispatchWorkflow.Chain start trace (.running pc self history))
    (held : heldOrders pc self = before ++ order :: after)
    (onward : dispatchWorkflow.Onward (.running pc self history) events config) :
    ((assignments (trace ++ events)).map Assignment.order)[(assignments trace).length +
        before.length]? = some order ∨
      ∃ pc' self' history' before' after', config = .running pc' self' history' ∧
        heldOrders pc' self' = before' ++ order :: after' ∧ pc'.rests = true ∧
        before'.length ≤ before.length ∧
        (resolutions events).length + pc'.awaits self' + 2 * before'.length ≤
          pc.awaits self + 2 * before.length := by
  have filled : before.length < (heldOrders pc self).length := by
    rw [held, List.length_append, List.length_cons]
    omega
  have queued : Queued before.length (pc.awaits self + 2 * before.length) pc self :=
    ⟨filled, Nat.le_refl _⟩
  have rests : pc.rests = true := by
    rcases chain.parked with ⟨input, rfl, _, _⟩ | suspended
    · rfl
    · exact queued.suspends suspended
  have chain' := chain.onward onward
  obtain ⟨pc', self', history', rfl⟩ := running_of_chain chain'
  have accounted : OrdersAccounted start trace pc self := (ordersAccounted start).of_running chain
  have accounted' : OrdersAccounted start (trace ++ events) pc' self' :=
    (ordersAccounted start).of_running chain'
  -- The line of orders only grows at its end.
  have line : start.pendingOrders ++ collect keptOrder (trace ++ events) =
      ((assignments trace).map Assignment.order ++ before) ++
        order :: (after ++ collect keptOrder events) := by
    unfold OrdersAccounted Accounts at accounted
    rw [collect_append, ← List.append_assoc, accounted, held]
    simp
  have place := accounted'.consumed_or_queued line
  rw [List.length_append, List.length_map] at place
  refine place.imp_right ?_
  rintro ⟨before', turn, held'⟩
  have issued : (assignments (trace ++ events)).length =
      (assignments trace).length + (metered Command.assigns events).length := by
    rw [length_metered_assigns, assignments, collect_append, List.length_append]
    rfl
  rw [List.length_map, issued] at turn
  rcases assignDeadline.of_onward ⟨rests, queued⟩ onward with
    passed | ⟨pc'', self'', history'', fewer, less, same, count, within, rests', queued'⟩
  · omega
  · cases same
    have bound := queued'.2
    refine ⟨_, _, _, before', _, rfl, held', rests', by omega, ?_⟩
    obtain rfl : fewer = before'.length := by omega
    omega

/-- The second of two orders, once the first has been reported back. -/
theorem order_never_starves_of_two :
    ∃ trace events self config, dispatchWorkflow.Chain { region := "us-west" } trace
        (.running (.awaitAssign ⟨"o1", "order-o1"⟩ (.synthetic "us-west" 0)) self 7) ∧
      dispatchWorkflow.Onward
        (.running (.awaitAssign ⟨"o1", "order-o1"⟩ (.synthetic "us-west" 0)) self 7) events config ∧
      ((assignments (trace ++ events)).map Assignment.order)[1]? = some ⟨"o2", "order-o2"⟩ := by
  have chain := Workflow.Chain.of_replay dispatchWorkflow 10 { region := "us-west" }
    [⟨[], none, 3⟩, ⟨[.orderReady ⟨"o1", "order-o1", "us-west"⟩,
      .orderReady ⟨"o2", "order-o2", "us-west"⟩], none, 7⟩] rfl
  have onward := Workflow.Onward.of_replay dispatchWorkflow 10
    (.running (.awaitAssign ⟨"o1", "order-o1"⟩ (.synthetic "us-west" 0))
      { region := "us-west", pending := [⟨"o2", "order-o2"⟩] } 7)
    [⟨[.setDegradation { suspendCan := true, inflateHistory := true }],
      some .activityCompleted, 13⟩, ⟨[], some .signalSent, 19⟩] rfl
  have held : heldOrders (.awaitAssign ⟨"o1", "order-o1"⟩ (.synthetic "us-west" 0))
      { region := "us-west", pending := [⟨"o2", "order-o2"⟩] } = [] ++ ⟨"o2", "order-o2"⟩ :: [] :=
    rfl
  refine ⟨_, _, _, _, chain, onward, ?_⟩
  refine (order_never_starves chain held onward).resolve_right ?_
  rintro ⟨pc', self', history', before', after', same, -, -, -, bound⟩
  cases same
  have four : 2 + 2 ≤ 2 := Nat.le_trans (Nat.le_add_right (2 + 2) _) bound
  exact absurd four (by decide)

end WardenDemo.Dispatch
