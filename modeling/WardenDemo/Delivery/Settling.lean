import WardenDemo.Delivery.Agreement

/-!
# Who delivered orders settle with

An order falls back to a synthetic courier where its region does not reply in time, and
a late reply still replaces it. So what the fleet can say of the courier on a settlement
is this: it is the synthetic one, or the one its region assigned; and where it is not
the courier published with the stage, the synthetic one was published before the reply.
-/

namespace WardenDemo.Delivery

open Durable WardenDemo.Order

variable {fleet : Fleet} {net : Net fleet.party}

/-- A courier is the synthetic one of an order, or was assigned to it by its region. -/
def CarriedBy (net : Net fleet.party) (orderId courierId : String) : Prop :=
  courierId = syntheticCourier orderId ∨ AssignedBy net orderId courierId

theorem carriedBy_of_candidate (reached : fleet.Reached net) {orderId courierId : String}
    (candidate : courierId ∈ candidates (fleet.order orderId) (order net orderId).trace) :
    CarriedBy net orderId courierId := by
  rw [candidates, fleet.order_id, List.mem_cons] at candidate
  exact candidate.imp_right (assignedBy_of_told reached)

/-- Early and late couriers are told once each. -/
theorem length_early_add_late (trace : List Event) :
    (earlyCouriers trace).length + (lateCouriers trace).length ≤
      (couriersAssigned trace).length := by
  induction trace with
  | nil => exact Nat.le_refl _
  | cons event rest ih =>
      rw [earlyCouriers, lateCouriers, couriersAssigned] at ih ⊢
      simp only [collect_cons, List.length_append]
      have here : (earlyCourier event).toList.length + (lateCourier event).toList.length ≤
          (assignedCourier event).toList.length := by
        cases event with
        | handled pc obj signal =>
            obtain ⟨courierId⟩ := signal
            cases phase : pc.place.phase <;>
              simp [earlyCourier, lateCourier, assignedCourier, phase]
        | _ => exact Nat.le_refl _
      omega

theorem late_subset (trace : List Event) : lateCouriers trace ⊆ couriersAssigned trace := by
  intro courierId late
  obtain ⟨event, mem, same⟩ := List.mem_filterMap.mp late
  refine List.mem_filterMap.mpr ⟨event, mem, ?_⟩
  unfold lateCourier at same
  split at same
  · split at same <;> cases same
    rfl
  · cases same

/-- Where an order is told one courier at most, a late one was told after the synthetic
courier was published. -/
theorem carrier_of_one (inp : OrderInput) (trace : List Event)
    (once : (couriersAssigned trace).length ≤ 1) :
    carrier inp (earlyCouriers trace) =
        carrier inp (earlyCouriers trace ++ lateCouriers trace) ∨
      carrier inp (earlyCouriers trace) = syntheticCourier inp.orderId ∧
        carrier inp (earlyCouriers trace ++ lateCouriers trace) ∈ couriersAssigned trace := by
  have lengths := length_early_add_late trace
  rcases List.eq_nil_or_concat (lateCouriers trace) with none | ⟨before, courierId, ends⟩
  · rw [none, List.append_nil]
    exact Or.inl rfl
  · have late : courierId ∈ lateCouriers trace := by simp [ends]
    have early : earlyCouriers trace = [] := by
      have some := List.length_pos_of_mem late
      exact List.eq_nil_of_length_eq_zero (by omega)
    refine Or.inr ⟨by simp [early, carrier], ?_⟩
    simpa [early, carrier, ends] using late_subset trace late

/-- In every interleaving of the fleet, whoever an order publishes or settles with is its
synthetic courier or one its region assigned to it. A delivered order which tracks its
stages publishes one courier and settles with one, and where these are two, the synthetic
one was published and the assigned one settled with. -/
theorem settles_with_carrier (reached : fleet.Reached net) (orderId : String) :
    ((∀ named ∈ publications (order net orderId).trace,
        ∃ courierId, CarriedBy net orderId courierId ∧ named = orUnknown (some courierId)) ∧
      ∀ started ∈ settlementStarts (order net orderId).trace,
        ∃ courierId, CarriedBy net orderId courierId ∧
          started = settlementOf (fleet.order orderId) (orUnknown (some courierId))) ∧
    ∀ result, (order net orderId).config = .completed result →
      (fleet.order orderId).trackStages = true → ∃ published settled,
        publications (order net orderId).trace = [orUnknown (some published)] ∧
        settlementStarts (order net orderId).trace =
          [settlementOf (fleet.order orderId) (orUnknown (some settled))] ∧
        (published = settled ∨
          published = syntheticCourier orderId ∧ AssignedBy net orderId settled) := by
  obtain ⟨published, settled⟩ := names_of_chain (order net orderId).chain
  refine ⟨⟨?_, ?_⟩, ?_⟩
  · intro named mem
    obtain ⟨courierId, candidate, same⟩ := published named mem
    exact ⟨courierId, carriedBy_of_candidate reached candidate, same⟩
  · intro started mem
    obtain ⟨courierId, candidate, same⟩ := settled started mem
    exact ⟨courierId, carriedBy_of_candidate reached candidate, same⟩
  · intro result completed tracking
    have chain := (order net orderId).chain
    rw [completed] at chain
    obtain ⟨onePublished, oneSettled⟩ := settled_of_completed tracking chain
    refine ⟨_, _, onePublished, oneSettled, ?_⟩
    have told := carrier_of_one (fleet.order orderId) (order net orderId).trace
      (couriersAssigned_length_le reached orderId)
    rw [fleet.order_id] at told
    exact told.imp_right fun ⟨synthetic, late⟩ =>
      ⟨synthetic, assignedBy_of_told reached late⟩

/-- An order is told its courier during the transit timer, after it has published its
synthetic one. -/
theorem settles_with_carrier_of_late :
    ∃ net : Net westernFleet.party, westernFleet.Reached net ∧
      publications (order net "o1").trace = ["synthetic-o1"] ∧
      ∃ published settled,
        publications (order net "o1").trace = [orUnknown (some published)] ∧
        settlementStarts (order net "o1").trace =
          [settlementOf (westernFleet.order "o1") (orUnknown (some settled))] ∧
        (published = settled ∨
          published = syntheticCourier "o1" ∧ AssignedBy net "o1" settled) := by
  obtain ⟨net, reached, shown⟩ := Fleet.Reached.exists_of_replay westernFleet
    (untilAssigned ++ [.order "o1" ⟨[], some .timerFired, 45⟩,
      .order "o1" ⟨[], some .activityCompleted, 51⟩,
      .order "o1" ⟨[.courierAssigned "7-ab"], some .timerFired, 57⟩,
      .order "o1" ⟨[], some .activityCompleted, 63⟩, .order "o1" ⟨[], some .childStarted, 68⟩])
    (fun net => (publications (order net "o1").trace, (order net "o1").config))
    (["synthetic-o1"], .completed "delivered") rfl
  obtain ⟨published, completed⟩ := Prod.mk.inj shown
  exact ⟨net, reached, published,
    (settles_with_carrier reached "o1").2 "delivered" completed rfl⟩

end WardenDemo.Delivery
