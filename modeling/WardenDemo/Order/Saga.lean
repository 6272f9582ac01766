import WardenDemo.Order.Workflow
import WardenDemo.Durable.Trace

/-!
# Who carries an order

For its courier, the saga has four phases: waiting for one, having one chosen,
carrying under the published one, and settled. `Moves` and `Resumes` say once
what the places of the saga do to the courier, and what they publish of it.
-/

namespace WardenDemo.Order

open Durable

inductive Phase where
  | waiting
  | chosen
  | carrying
  | settled
  | failed
deriving DecidableEq, Repr

def Place.phase : Place → Phase
  | .call .markPickedUp | .awaitCall .markPickedUp | .inTransit => .chosen
  | .sleep .transit | .awaitSleep .transit => .carrying
  | .call .markDelivered | .awaitCall .markDelivered | .settle => .carrying
  | .awaitSettle | .delivered => .settled
  | .raised => .failed
  | _ => .waiting

/-- Completing an activity, or a timer, leaves the saga in its phase. -/
theorem Activity.next_phase (activity : Activity) :
    activity.next.phase = (Place.awaitCall activity).phase ∧ activity.next ≠ .fallback := by
  cases activity <;> exact ⟨rfl, nofun⟩

theorem Timer.next_phase (timer : Timer) :
    timer.next.phase = (Place.awaitSleep timer).phase ∧ timer.next ≠ .fallback := by
  cases timer <;> exact ⟨rfl, nofun⟩

/-- The CourierId an event upserts with the in_transit stage. -/
def publication : Event → Option String
  | .issued (.upsertSearchAttributes .inTransit (some (.courierId courierId))) => some courierId
  | _ => none

/-- What an event starts the settlement child with. -/
def settlementStart : Event → Option (SettlementInput × SettlementAttributes)
  | .issued (.startSettlement _ input attributes) => some (input, attributes)
  | _ => none

def publications (trace : List Event) : List String := collect publication trace

def settlementStarts (trace : List Event) : List (SettlementInput × SettlementAttributes) :=
  collect settlementStart trace

/-- The input and the attributes of the settlement of an order and its courier. -/
def settlementOf (inp : OrderInput) (courierId : String) :
    SettlementInput × SettlementAttributes :=
  ({ orderId := inp.orderId, region := inp.region, restaurantId := inp.restaurantId, courierId },
    { deliveryRegion := inp.region, restaurantId := inp.restaurantId, courierId,
      orderStage := .settling })

/-- What a place of the saga which goes on does to the courier. -/
inductive Moves (inp : OrderInput) :
    Place → OrderWorkflow → Place → OrderWorkflow → List Command → Prop where
  | keeps {place next self self' commands} (phase : next.phase = place.phase)
      (onward : next ≠ .fallback) (courier : self'.courierId = self.courierId)
      (unpublished : publications (commands.map .issued) = [])
      (unsettled : settlementStarts (commands.map .issued) = []) :
      Moves inp place self next self' commands
  | satisfied {self : OrderWorkflow} (some : self.courierId.isSome = true) :
      Moves inp .awaitCourier self (.call .markPickedUp) self []
  | fallsBack {self : OrderWorkflow} :
      Moves inp .fallback self (.call .markPickedUp)
        { self with courierId := some (syntheticCourier inp.orderId) } []
  | publishes {self : OrderWorkflow} :
      Moves inp .inTransit self (.sleep .transit) self
        (self.stage .inTransit (some (.courierId (orUnknown self.courierId))))
  | settles {self : OrderWorkflow} :
      Moves inp .settle self .awaitSettle self [self.settlement inp]

/-- Going on never leads to the fallback: only a wait that times out does. -/
theorem Moves.onward {inp : OrderInput} {place next : Place} {self self' : OrderWorkflow}
    {commands : List Command} (moved : Moves inp place self next self' commands) :
    next ≠ .fallback := by
  cases moved with
  | keeps _ onward _ _ _ => exact onward
  | _ => nofun

section Steps

variable {history : Nat} {inp : OrderInput} {place : Place} {pc : Pc}
  {self self' : OrderWorkflow} {commands : List Command}

/-- The upserts of the other stages publish no courier. -/
theorem unpublished_stage (self : OrderWorkflow) {stage : Stage} (other : stage ≠ .inTransit)
    (extra : Option Extra) :
    publications ((self.stage stage extra).map .issued) = [] := by
  unfold OrderWorkflow.stage
  split
  · cases stage with
    | inTransit => exact absurd rfl other
    | preparing | awaitingCourier | settling => rfl
  · rfl

theorem unsettled_stage (stage : Stage) (extra : Option Extra) :
    settlementStarts ((self.stage stage extra).map .issued) = [] := by
  unfold OrderWorkflow.stage
  split <;> rfl

theorem moves_of_step
    (stepped : orderWorkflow.step history ⟨inp, place⟩ self = .proceed pc self' commands) :
    pc.inp = inp ∧ Moves inp place self pc.place self' commands ∧
      self'.trackStages =
        if place = .start then inp.trackStages else self.trackStages := by
  cases place with
  | start =>
      cases stepped
      refine ⟨rfl, .keeps ?_ ?_ rfl rfl rfl, rfl⟩ <;> split <;> first | rfl | nofun
  | call activity =>
      cases stepped
      exact ⟨rfl, .keeps (by cases activity <;> rfl) nofun rfl rfl rfl, rfl⟩
  | sleep timer =>
      cases stepped
      exact ⟨rfl, .keeps (by cases timer <;> rfl) nofun rfl rfl rfl, rfl⟩
  | preparing =>
      cases stepped
      have unpublished := unpublished_stage self (show Stage.preparing ≠ .inTransit from nofun)
      exact ⟨rfl, .keeps rfl nofun rfl (unpublished _) (unsettled_stage _ _), rfl⟩
  | awaitingCourier =>
      cases stepped
      have unpublished :=
        unpublished_stage self (show Stage.awaitingCourier ≠ .inTransit from nofun)
      exact ⟨rfl, .keeps rfl nofun rfl (unpublished _) (unsettled_stage _ _), rfl⟩
  | requestDispatch =>
      cases stepped
      exact ⟨rfl, .keeps rfl nofun rfl rfl rfl, rfl⟩
  | awaitCourier =>
      simp only [orderWorkflow, OrderWorkflow.step] at stepped
      split at stepped <;> cases stepped
      exact ⟨rfl, .satisfied (by assumption), rfl⟩
  | fallback =>
      cases stepped
      exact ⟨rfl, .fallsBack, rfl⟩
  | inTransit =>
      cases stepped
      exact ⟨rfl, .publishes, rfl⟩
  | settle =>
      cases stepped
      exact ⟨rfl, .settles, rfl⟩
  | awaitCall _ | awaitSleep _ | awaitRequest | awaitSettle | delivered | raised => cases stepped

/-- The saga is never suspended at the fallback. -/
theorem onward_of_suspend (stepped : orderWorkflow.step history pc self = .suspend) :
    pc.place ≠ .fallback := by
  obtain ⟨inp, place⟩ := pc
  rintro rfl
  cases stepped

theorem not_continues {input : OrderInput} :
    orderWorkflow.step history pc self ≠ .continueAsNew input commands := by
  obtain ⟨inp, place⟩ := pc
  intro stepped
  cases place with
  | awaitCourier =>
      simp only [orderWorkflow, OrderWorkflow.step] at stepped
      split at stepped <;> cases stepped
  | _ => cases stepped

/-- The saga only returns at its end. -/
theorem completes_of_step {result : String}
    (stepped : orderWorkflow.step history pc self = .complete result) :
    pc.place = .delivered ∧ result = "delivered" := by
  obtain ⟨inp, place⟩ := pc
  cases place with
  | delivered =>
      cases stepped
      exact ⟨rfl, rfl⟩
  | awaitCourier =>
      simp only [orderWorkflow, OrderWorkflow.step] at stepped
      split at stepped <;> cases stepped
  | _ => cases stepped

/-- The saga only fails where it has raised. -/
theorem fails_of_step (stepped : orderWorkflow.step history pc self = .fail) :
    pc.place = .raised := by
  obtain ⟨inp, place⟩ := pc
  cases place with
  | raised => rfl
  | awaitCourier =>
      simp only [orderWorkflow, OrderWorkflow.step] at stepped
      split at stepped <;> cases stepped
  | _ => cases stepped

/-- Where a resolved await goes on from: in its phase, at the fallback of a wait
that timed out without a courier, or where the order fails. -/
theorem resumes_of_resumePlace {resolution : Resolution} {next : Place}
    (resumed : OrderWorkflow.resumePlace resolution place self = some next) :
    (next.phase = place.phase ∧ next ≠ .fallback) ∨
      (place.phase = .waiting ∧ next = .fallback ∧ self.courierId = none) ∨
      next = .raised := by
  unfold OrderWorkflow.resumePlace at resumed
  split at resumed
  case h_1 =>
      cases resumed
      exact Or.inl (Activity.next_phase _)
  case h_2 | h_8 =>
      cases resumed
      exact Or.inr (Or.inr rfl)
  case h_3 =>
      cases resumed
      exact Or.inl (Timer.next_phase _)
  case h_6 =>
      split at resumed <;> cases resumed
      · exact Or.inl ⟨rfl, nofun⟩
      · exact Or.inr (Or.inl ⟨rfl, rfl, by simpa using ‹¬ self.courierId.isSome = true›⟩)
  case h_9 => cases resumed
  all_goals
    cases resumed
    exact Or.inl ⟨rfl, nofun⟩

theorem resumes_of_resume {resolution : Resolution} {next : Pc}
    (resumed : OrderWorkflow.resume resolution pc self = some next) :
    next.inp = pc.inp ∧
      OrderWorkflow.resumePlace resolution pc.place self = some next.place := by
  obtain ⟨place, reached, rfl⟩ := Option.map_eq_some_iff.mp resumed
  exact ⟨rfl, reached⟩

end Steps

end WardenDemo.Order
