import WardenDemo.Delivery.Network

/-!
# Orders and regions agree

Whatever the interleaving, however many executions of a region there are and whatever
is never delivered: an order is assigned only by its own region, because it asked, and
once over all executions; and the courier it is told is the one of that assignment.
-/

namespace WardenDemo.Delivery

open Durable

variable {fleet : Fleet} {net : Net fleet.party}

section Senders

/-- Only an order asks for a courier, and it asks what its input says. -/
theorem sender_of_orderReady {sender : Address} {recipient : String} {ready : OrderReady}
    (sent : (recipient, Message.dispatch (.orderReady ready)) ∈ net.sentBy sender) :
    sender = .order ready.orderId ∧
      (recipient, ready) = Order.requestOf (fleet.order ready.orderId) ∧
      Order.requests (order net ready.orderId).trace = [(recipient, ready)] := by
  cases sender with
  | order orderId =>
      rw [sentBy_order] at sent
      obtain ⟨request, mem, same⟩ := List.mem_map.mp sent
      obtain ⟨rfl, rfl⟩ : request.1 = recipient ∧ request.2 = ready := by simpa using same
      rcases Order.requests_of_chain (order net orderId).chain with none | once
      · rw [none] at mem
        cases mem
      · rw [once, List.mem_singleton] at mem
        have own : request.2.orderId = orderId := by
          rw [mem]
          exact fleet.order_id orderId
        rw [own]
        exact ⟨rfl, mem, once.trans (by rw [← mem])⟩
  | dispatch region execution =>
      rw [sentBy_dispatch] at sent
      simp at sent
  | shift courierId =>
      rw [sentBy_shift] at sent
      simp at sent

/-- Only a region assigns a courier to an order, and it replies to an assignment. -/
theorem sender_of_courierAssigned {sender : Address} {recipient courierId : String}
    (sent : (recipient, Message.order (.courierAssigned courierId)) ∈ net.sentBy sender) :
    ∃ region execution, sender = .dispatch region execution ∧
      ∃ assigned ∈ assignmentsAt net sender, assigned.reply = (recipient, courierId) := by
  cases sender with
  | order orderId =>
      rw [sentBy_order] at sent
      simp at sent
  | shift shiftId =>
      rw [sentBy_shift] at sent
      simp at sent
  | dispatch region execution =>
      rw [sentBy_dispatch] at sent
      obtain ⟨reply, mem, same⟩ := List.mem_map.mp sent
      obtain ⟨rfl, rfl⟩ : reply.1 = recipient ∧ reply.2 = courierId := by simpa using same
      have within := Dispatch.replies_prefix (dispatch net region execution).chain
      obtain ⟨assigned, there, replied⟩ := List.mem_map.mp (within.subset mem)
      exact ⟨region, execution, rfl, assigned, there, replied⟩

/-- The order a signal puts into a region, if it is an `order_ready`. -/
def readyOf : Dispatch.Signal → Option PendingOrder
  | .orderReady ready => some ⟨ready.orderId, ready.orderWfId⟩
  | _ => none

theorem ordersReady_eq (trace : List Dispatch.Event) :
    Dispatch.ordersReady trace = collect readyOf (collect receipt trace) := by
  rw [Dispatch.ordersReady, collect, collect, collect, List.filterMap_filterMap]
  refine List.filterMap_congr fun event _ => ?_
  cases event with
  | handled pc obj signal => cases signal <;> rfl
  | _ => rfl

/-- The orders an execution of a region assigned are among those it handled. -/
theorem assignmentsAt_sublist (region : String) (execution : Nat) :
    ((assignmentsAt net (.dispatch region execution)).map Dispatch.Assignment.order).Sublist
      (collect readyOf (collect receipt (dispatch net region execution).trace)) := by
  rw [← ordersReady_eq]
  exact (Dispatch.assigned_of_handled ⟨rfl, rfl⟩ (dispatch net region execution).chain).1

end Senders

/-- An assignment is one the order has asked for: of its own region, under its own
workflow id. -/
def Asked (net : Net fleet.party) (region : String) (pending : PendingOrder) : Prop :=
  (fleet.order pending.orderId).region = region ∧
    pending.orderWfId = orderWfId pending.orderId ∧
    Order.requests (order net pending.orderId).trace =
      [Order.requestOf (fleet.order pending.orderId)]

/-- An execution of a region only assigns orders which have asked that region. -/
theorem asked_of_assigned (reached : fleet.Reached net) {region : String} {execution : Nat}
    {assigned : Dispatch.Assignment}
    (mem : assigned ∈ assignmentsAt net (.dispatch region execution)) :
    Asked net region assigned.order := by
  have ready := (assignmentsAt_sublist region execution).subset (List.mem_map_of_mem mem)
  obtain ⟨signal, handled, same⟩ := List.mem_filterMap.mp ready
  cases signal with
  | orderReady ready =>
      have taken : Message.dispatch (.orderReady ready) ∈
          (fleet.party (.dispatch region execution)).handled
            (net.state (.dispatch region execution)) := List.mem_map_of_mem handled
      have named : assigned.order = ⟨ready.orderId, ready.orderWfId⟩ :=
        (Option.some.inj same).symm
      rcases reached.origin taken with refused | ⟨sender, sent⟩
      · cases refused
      · obtain ⟨_, asks, once⟩ := sender_of_orderReady sent
        obtain ⟨there, own⟩ := Prod.mk.inj asks
        rw [named]
        refine ⟨(dispatchId_injective there).symm, ?_, ?_⟩
        · rw [own, fleet.order_id]
        · rw [once, asks]
  | courierAvailable _ | setDegradation _ => cases same

/-- Whether a request asks for a courier for an order. -/
def asksFor (orderId : String) (request : String × Message) : Bool :=
  match request.2 with
  | .dispatch (.orderReady ready) => ready.orderId = orderId
  | _ => false

/-- Whether a request assigns a courier under the id of an order. -/
def answers (orderId : String) (request : String × Message) : Bool :=
  match request.2 with
  | .order _ => request.1 = orderWfId orderId
  | _ => false

theorem asksFor_eq_true {orderId : String} {request : String × Message}
    (asks : asksFor orderId request = true) :
    ∃ ready, request.2 = .dispatch (.orderReady ready) ∧ ready.orderId = orderId := by
  unfold asksFor at asks
  split at asks
  · exact ⟨_, by assumption, by simpa using asks⟩
  · cases asks

/-- The assignments of an order at one party are at most the requests it took in for it. -/
theorem countP_assignmentsAt_le (orderId : String) (address : Address) :
    (assignmentsAt net address).countP (fun assigned => assigned.order.orderId = orderId) ≤
      (net.received address).countP (asksFor orderId) := by
  cases address with
  | dispatch region execution =>
      have within : ((assignmentsAt net (.dispatch region execution)).map
          Dispatch.Assignment.order).countP (fun pending => decide (pending.orderId = orderId)) ≤
            _ := (assignmentsAt_sublist region execution).countP_le
      have taken : ∀ signals : List Dispatch.Signal,
          (collect readyOf signals).countP (fun pending => decide (pending.orderId = orderId)) =
            (signals.map fun signal => (dispatchId region, Message.dispatch signal)).countP
              (asksFor orderId) := by
        intro signals
        induction signals with
        | nil => rfl
        | cons signal rest ih =>
            cases signal <;> simp [readyOf, asksFor, List.countP_cons, ih]
      rw [received_dispatch, ← taken]
      simpa [List.countP_map, Function.comp_def] using within
  | order _ | shift _ => exact Nat.zero_le _

/-- An order asks for a courier at most once, whoever takes it in. -/
theorem countP_asksFor_le (orderId : String) :
    (net.sentBy (.order orderId)).countP (asksFor orderId) ≤ 1 := by
  refine Nat.le_trans List.countP_le_length ?_
  rw [sentBy_order, List.length_map]
  rcases Order.requests_of_chain (order net orderId).chain with none | once
  · simp [none]
  · simp [once]

/-- No order is assigned twice, over all executions of all regions. -/
theorem assigned_at_most_once (reached : fleet.Reached net) {addresses : List Address}
    (distinct : addresses.Nodup) (orderId : String) :
    (addresses.flatMap (assignmentsAt net)).countP
      (fun assigned => assigned.order.orderId = orderId) ≤ 1 := by
  have own : ∀ sender, ∀ request ∈ net.sentBy sender, asksFor orderId request = true →
      sender = .order orderId := by
    rintro sender ⟨recipient, message⟩ sent asks
    obtain ⟨ready, rfl, rfl⟩ := asksFor_eq_true asks
    exact (sender_of_orderReady sent).1
  calc _ ≤ (addresses.flatMap net.received).countP (asksFor orderId) :=
        countP_flatMap_le fun address _ => countP_assignmentsAt_le orderId address
    _ ≤ (net.senders.flatMap net.sentBy).countP (asksFor orderId) :=
        reached.countP_received_le distinct (ignored_of_generator (fun _ _ => rfl) fun _ _ => rfl)
    _ ≤ (net.sentBy (.order orderId)).countP (asksFor orderId) :=
        Net.countP_sentBy_le (List.nodup_dedup _) own
    _ ≤ 1 := countP_asksFor_le orderId

/-- A region replies to an order at most once for each assignment of it. -/
theorem countP_answers_le (reached : fleet.Reached net) (orderId : String) (sender : Address) :
    (net.sentBy sender).countP (answers orderId) ≤
      (assignmentsAt net sender).countP (fun assigned => assigned.order.orderId = orderId) := by
  cases sender with
  | order other =>
      rw [sentBy_order, List.countP_map]
      exact Nat.le_of_eq (List.countP_eq_zero.mpr (by simp [answers]))
  | shift courierId =>
      rw [sentBy_shift, List.countP_map]
      exact Nat.le_of_eq (List.countP_eq_zero.mpr (by simp [answers]))
  | dispatch region execution =>
      have within := (Dispatch.replies_prefix (dispatch net region execution).chain).sublist
      have replied := within.countP_le (p := fun reply => decide (reply.1 = orderWfId orderId))
      rw [List.countP_map] at replied
      rw [sentBy_dispatch, List.countP_map]
      refine Nat.le_trans (Nat.le_of_eq ?_) (Nat.le_trans replied (List.countP_mono_left ?_))
      · rfl
      · intro assigned mem named
        have there : assigned ∈ assignmentsAt net (.dispatch region execution) := mem
        apply decide_eq_true
        apply orderWfId_injective
        rw [← (asked_of_assigned reached there).2.1]
        exact of_decide_eq_true named

/-- An order is told a courier at most once, whatever is delivered when. -/
theorem couriersAssigned_length_le (reached : fleet.Reached net) (orderId : String) :
    (Order.couriersAssigned (order net orderId).trace).length ≤ 1 := by
  have told : (net.received (.order orderId)).countP (answers orderId) =
      (Order.couriersAssigned (order net orderId).trace).length := by
    rw [received_order, List.countP_map]
    exact List.countP_eq_length.mpr (by simp [answers])
  have ignored (request : String × Message) (allowed : generatorSignals request = true) :
      answers orderId request = false :=
    ignored_of_generator (fun _ _ => rfl) (fun _ _ => rfl) request allowed
  have taken := reached.countP_received_le (List.nodup_singleton (Address.order orderId)) ignored
  rw [List.flatMap_singleton, told] at taken
  exact Nat.le_trans taken (Nat.le_trans
    (countP_flatMap_le fun sender _ => countP_answers_le reached orderId sender)
    (assigned_at_most_once reached (List.nodup_dedup _) orderId))

/-- A courier was assigned to an order by an execution of its own region, which the order
had asked. -/
def AssignedBy (net : Net fleet.party) (orderId courierId : String) : Prop :=
  ∃ execution, ∃ assigned ∈ assignmentsAt net (.dispatch (fleet.order orderId).region execution),
    assigned.order = ⟨orderId, orderWfId orderId⟩ ∧ assigned.courier.id = courierId ∧
      Order.requests (order net orderId).trace = [Order.requestOf (fleet.order orderId)]

/-- Whoever an order is told was assigned to it. -/
theorem assignedBy_of_told (reached : fleet.Reached net) {orderId courierId : String}
    (told : courierId ∈ Order.couriersAssigned (order net orderId).trace) :
    AssignedBy net orderId courierId := by
  have handled : Message.order (.courierAssigned courierId) ∈
      (fleet.party (.order orderId)).handled (net.state (.order orderId)) := by
    obtain ⟨event, mem, same⟩ := List.mem_filterMap.mp told
    refine List.mem_map_of_mem (List.mem_filterMap.mpr ⟨event, mem, ?_⟩)
    unfold Order.assignedCourier at same
    split at same
    · cases same
      rfl
    · cases same
  rcases reached.origin handled with refused | ⟨sender, sent⟩
  · cases refused
  · obtain ⟨region, execution, rfl, assigned, mem, replied⟩ := sender_of_courierAssigned sent
    obtain ⟨wfId, courier⟩ := Prod.mk.inj replied
    obtain ⟨own, named, asked⟩ := asked_of_assigned reached mem
    have same : assigned.order.orderId = orderId := orderWfId_injective (named.symm.trans wfId)
    rw [same] at own asked
    subst own
    refine ⟨execution, assigned, mem, ?_, courier, asked⟩
    rw [← same, ← named]

/-- In every interleaving of the fleet, an order which is told a courier is told no other
one, and the courier was assigned to it by an execution of its own region, which the
order had asked. -/
theorem courier_agreed (reached : fleet.Reached net) {orderId courierId : String}
    (told : courierId ∈ Order.couriersAssigned (order net orderId).trace) :
    Order.couriersAssigned (order net orderId).trace = [courierId] ∧
      AssignedBy net orderId courierId := by
  refine ⟨?_, assignedBy_of_told reached told⟩
  have once := couriersAssigned_length_le reached orderId
  have some := List.length_pos_of_mem told
  obtain ⟨only, same⟩ := List.length_eq_one_iff.mp (Nat.le_antisymm once some)
  rw [same, List.mem_singleton] at told
  rw [same, told]

/-- The courier reported to the region is told to the order which asked it. -/
theorem courier_agreed_of_one :
    ∃ net : Net westernFleet.party, westernFleet.Reached net ∧
      Order.couriersAssigned (order net "o1").trace = ["7-ab"] ∧ AssignedBy net "o1" "7-ab" := by
  obtain ⟨net, reached, told⟩ := Fleet.Reached.exists_of_replay westernFleet
    (untilAssigned ++ [.order "o1" ⟨[.courierAssigned "7-ab"], none, 45⟩])
    (fun net => Order.couriersAssigned (order net "o1").trace) ["7-ab"] rfl
  exact ⟨net, reached, courier_agreed reached (told ▸ List.mem_singleton_self "7-ab")⟩

/-- In every interleaving of the fleet, a region only assigns orders which have asked it,
and no order is assigned twice, over all executions of all regions. -/
theorem orders_assigned_as_asked (reached : fleet.Reached net) :
    (∀ region execution, ∀ assigned ∈ assignmentsAt net (.dispatch region execution),
      Asked net region assigned.order) ∧
    ∀ addresses : List Address, addresses.Nodup → ∀ orderId,
      (addresses.flatMap (assignmentsAt net)).countP
        (fun assigned => assigned.order.orderId = orderId) ≤ 1 :=
  ⟨fun _ _ _ mem => asked_of_assigned reached mem,
    fun _ distinct orderId => assigned_at_most_once reached distinct orderId⟩

/-- Two executions of a region have assigned the order once between them. -/
theorem orders_assigned_as_asked_of_one :
    ∃ net : Net westernFleet.party, westernFleet.Reached net ∧
      assignmentsAt net (.dispatch "us-west" 1) =
        [⟨⟨"o1", "order-o1"⟩, .pooled "7-ab", ["7-ab"]⟩] ∧
      Asked net "us-west" ⟨"o1", "order-o1"⟩ ∧
      ([Address.dispatch "us-west" 1, Address.dispatch "us-west" 2].flatMap
        (assignmentsAt net)).countP (fun assigned => assigned.order.orderId = "o1") ≤ 1 := by
  obtain ⟨net, reached, assigned⟩ := Fleet.Reached.exists_of_replay westernFleet untilAssigned
    (fun net => assignmentsAt net (.dispatch "us-west" 1))
    [⟨⟨"o1", "order-o1"⟩, .pooled "7-ab", ["7-ab"]⟩] rfl
  obtain ⟨asked, once⟩ := orders_assigned_as_asked reached
  refine ⟨net, reached, assigned, ?_, once _ (by decide) "o1"⟩
  exact asked "us-west" 1 _ (assigned ▸ List.mem_singleton_self _)

end WardenDemo.Delivery
