import WardenDemo.Delivery.Agreement

/-!
# Couriers are booked as they report

A region takes a courier from its pool only because that courier's shift reported it,
to that region, and a shift reports once for each assignment it has accepted. So over
all executions of all regions a courier is booked no more often than that.
-/

namespace WardenDemo.Delivery

open Durable

variable {fleet : Fleet} {net : Net fleet.party}

/-- Whether an assignment is to a courier out of the pool. -/
def books (courierId : String) (assigned : Dispatch.Assignment) : Bool :=
  assigned.courier = .pooled courierId

/-- The courier a signal puts into a region's pool, if it is a `courier_available`. -/
def courierOf : Dispatch.Signal → Option String
  | .courierAvailable avail => some avail.courierId
  | _ => none

/-- Whether a request reports a courier. -/
def reports (courierId : String) (request : String × Message) : Bool :=
  match request.2 with
  | .dispatch (.courierAvailable avail) => avail.courierId = courierId
  | _ => false

theorem reports_eq_true {courierId : String} {request : String × Message}
    (reported : reports courierId request = true) :
    ∃ avail, request.2 = .dispatch (.courierAvailable avail) ∧ avail.courierId = courierId := by
  unfold reports at reported
  split at reported
  · exact ⟨_, by assumption, by simpa using reported⟩
  · cases reported

theorem couriersAvailable_eq (trace : List Dispatch.Event) :
    Dispatch.couriersAvailable trace = collect courierOf (collect receipt trace) := by
  rw [Dispatch.couriersAvailable, collect, collect, collect, List.filterMap_filterMap]
  refine List.filterMap_congr fun event _ => ?_
  cases event with
  | handled pc obj signal => cases signal <;> rfl
  | _ => rfl

/-- The couriers taken from the pool are those of the assignments which are not made up. -/
theorem countP_books (courierId : String) (trace : List Dispatch.Event) :
    (Dispatch.assignments trace).countP (books courierId) =
      (Dispatch.pooledCouriers trace).count courierId := by
  induction trace with
  | nil => rfl
  | cons event rest ih =>
      rw [Dispatch.assignments, Dispatch.pooledCouriers, collect_cons, collect_cons,
        List.countP_append, List.count_append]
      refine congrArg₂ (· + ·) ?_ ih
      cases event with
      | issued command =>
          cases command with
          | assignCourier assigned =>
              obtain ⟨order, courier, pool⟩ := assigned
              cases courier <;>
                simp [Dispatch.assignment, Dispatch.pooledCourier, books, List.countP_cons,
                  List.count_cons]
          | _ => rfl
      | _ => rfl

/-- Only a shift reports a courier: its own, to its own region. -/
theorem sender_of_courierAvailable {sender : Address} {recipient : String}
    {avail : CourierAvailable}
    (sent : (recipient, Message.dispatch (.courierAvailable avail)) ∈ net.sentBy sender) :
    sender = .shift avail.courierId ∧
      recipient = dispatchId (fleet.shift avail.courierId).region := by
  cases sender with
  | order orderId =>
      rw [sentBy_order] at sent
      simp at sent
  | dispatch region execution =>
      rw [sentBy_dispatch] at sent
      simp at sent
  | shift courierId =>
      rw [sentBy_shift] at sent
      obtain ⟨report, mem, same⟩ := List.mem_map.mp sent
      obtain ⟨rfl, rfl⟩ : report.1 = recipient ∧ report.2 = avail := by simpa using same
      have own := Courier.reportsTo_of_chain (shift net courierId).chain report mem
      have named : report.2.courierId = courierId := by
        rw [own]
        exact fleet.shift_id courierId
      rw [named, own]
      exact ⟨rfl, rfl⟩

/-- A shift reports no more often than it has accepted assignments. -/
theorem countP_reports_le (courierId : String) :
    (net.sentBy (.shift courierId)).countP (reports courierId) ≤
      (Courier.accepted (shift net courierId).trace).length := by
  refine Nat.le_trans List.countP_le_length ?_
  rw [sentBy_shift, List.length_map]
  exact Courier.length_reportsTo_le (fleet.shift_fresh courierId) (shift net courierId).chain

/-- The bookings of a courier at one party are at most the reports it took in for it. -/
theorem countP_books_le (courierId : String) (address : Address) :
    (assignmentsAt net address).countP (books courierId) ≤
      (net.received address).countP (reports courierId) := by
  cases address with
  | order _ | shift _ => exact Nat.zero_le _
  | dispatch region execution =>
      have within := (Dispatch.assigned_of_handled ⟨rfl, rfl⟩
        (dispatch net region execution).chain).2.count_le courierId
      have taken : ∀ signals : List Dispatch.Signal,
          (collect courierOf signals).count courierId =
            (signals.map fun signal => (dispatchId region, Message.dispatch signal)).countP
              (reports courierId) := by
        intro signals
        induction signals with
        | nil => rfl
        | cons signal rest ih =>
            cases signal <;>
              simp [courierOf, reports, List.countP_cons, List.count_cons, ih]
      rw [received_dispatch, ← taken, ← couriersAvailable_eq]
      exact Nat.le_trans (Nat.le_of_eq (countP_books courierId _)) within

/-- A courier is booked by the region its shift was started in. -/
theorem region_of_booked (reached : fleet.Reached net) {region courierId : String}
    {execution : Nat} {assigned : Dispatch.Assignment}
    (mem : assigned ∈ assignmentsAt net (.dispatch region execution))
    (booked : assigned.courier = .pooled courierId) :
    (fleet.shift courierId).region = region := by
  have some : 0 < (net.received (.dispatch region execution)).countP (reports courierId) := by
    refine Nat.lt_of_lt_of_le ?_ (countP_books_le courierId _)
    exact List.countP_pos_iff.mpr ⟨assigned, mem, decide_eq_true booked⟩
  obtain ⟨request, taken, reported⟩ := List.countP_pos_iff.mp some
  obtain ⟨avail, carries, rfl⟩ := reports_eq_true reported
  obtain ⟨message, handled, rfl⟩ := List.mem_map.mp taken
  obtain rfl : message = .dispatch (.courierAvailable avail) := carries
  rcases reached.origin handled with refused | ⟨sender, sent⟩
  · cases refused
  · exact (dispatchId_injective (sender_of_courierAvailable sent).2).symm

/-- In every interleaving of the fleet, a region books couriers of its own shifts only,
and a courier is booked, over all executions of all regions, no more often than its shift
has accepted assignments. -/
theorem couriers_booked_as_reported (reached : fleet.Reached net) :
    (∀ region execution, ∀ assigned ∈ assignmentsAt net (.dispatch region execution),
      ∀ courierId, assigned.courier = .pooled courierId →
        (fleet.shift courierId).region = region) ∧
    ∀ addresses : List Address, addresses.Nodup → ∀ courierId,
      (addresses.flatMap (assignmentsAt net)).countP (books courierId) ≤
        (Courier.accepted (shift net courierId).trace).length := by
  refine ⟨fun _ _ _ mem _ booked => region_of_booked reached mem booked, ?_⟩
  intro addresses distinct courierId
  have own : ∀ sender, ∀ request ∈ net.sentBy sender, reports courierId request = true →
      sender = .shift courierId := by
    rintro sender ⟨recipient, message⟩ sent reported
    obtain ⟨avail, rfl, rfl⟩ := reports_eq_true reported
    exact (sender_of_courierAvailable sent).1
  calc _ ≤ (addresses.flatMap net.received).countP (reports courierId) :=
        countP_flatMap_le fun address _ => countP_books_le courierId address
    _ ≤ (net.senders.flatMap net.sentBy).countP (reports courierId) :=
        reached.countP_received_le distinct (ignored_of_generator (fun _ _ => rfl) fun _ _ => rfl)
    _ ≤ (net.sentBy (.shift courierId)).countP (reports courierId) :=
        Net.countP_sentBy_le (List.nodup_dedup _) own
    _ ≤ _ := countP_reports_le courierId

/-- One acceptance, and one booking of the courier. -/
theorem couriers_booked_as_reported_of_one :
    ∃ net : Net westernFleet.party, westernFleet.Reached net ∧
      assignmentsAt net (.dispatch "us-west" 1) =
        [⟨⟨"o1", "order-o1"⟩, .pooled "7-ab", ["7-ab"]⟩] ∧
      Courier.accepted (shift net "7-ab").trace = ["a1"] ∧
      ([Address.dispatch "us-west" 1, Address.dispatch "us-west" 2].flatMap
        (assignmentsAt net)).countP (books "7-ab") ≤ 1 := by
  obtain ⟨net, reached, shown⟩ := Fleet.Reached.exists_of_replay westernFleet untilAssigned
    (fun net => (assignmentsAt net (.dispatch "us-west" 1),
      Courier.accepted (shift net "7-ab").trace))
    ([⟨⟨"o1", "order-o1"⟩, .pooled "7-ab", ["7-ab"]⟩], ["a1"]) rfl
  obtain ⟨assigned, accepted⟩ := Prod.mk.inj shown
  have within := (couriers_booked_as_reported reached).2
    [.dispatch "us-west" 1, .dispatch "us-west" 2] (by decide) "7-ab"
  rw [accepted] at within
  exact ⟨net, reached, assigned, accepted, within⟩

end WardenDemo.Delivery
