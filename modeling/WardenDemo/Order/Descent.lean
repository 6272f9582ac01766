import WardenDemo.Order.Saga
import WardenDemo.Durable.Finishing

/-!
# The saga descends

Every place of the saga leads to one nearer to its end, and so does every
resolved await. A wait which times out with a courier there is looked at once
more and then over.
-/

namespace WardenDemo.Order

open Durable

/-- How far a place of the saga is from its end. -/
def Place.height : Place → Nat
  | .start => 30
  | .sleep .forceTimeout => 29
  | .awaitSleep .forceTimeout => 28
  | .call .validateOrder => 27
  | .awaitCall .validateOrder => 26
  | .call .authorizePayment => 25
  | .awaitCall .authorizePayment => 24
  | .call .sendToRestaurant => 23
  | .awaitCall .sendToRestaurant => 22
  | .sleep .restaurantAccept => 21
  | .awaitSleep .restaurantAccept => 20
  | .call .pollRestaurantAccept => 19
  | .awaitCall .pollRestaurantAccept => 18
  | .preparing => 17
  | .sleep .prep => 16
  | .awaitSleep .prep => 15
  | .requestDispatch => 14
  | .awaitRequest => 13
  | .awaitingCourier => 12
  | .awaitCourier => 11
  | .fallback => 10
  | .call .markPickedUp => 9
  | .awaitCall .markPickedUp => 8
  | .inTransit => 7
  | .sleep .transit => 6
  | .awaitSleep .transit => 5
  | .call .markDelivered => 4
  | .awaitCall .markDelivered => 3
  | .settle => 2
  | .awaitSettle => 1
  | .delivered | .raised => 0

/-- A wait for a courier who is there is as good as over. -/
def Place.busyHeight (place : Place) (order : OrderWorkflow) : Nat :=
  if place = .awaitCourier ∧ order.courierId.isSome = true then 10 else place.height

theorem Place.busyHeight_le (place : Place) (order : OrderWorkflow) :
    place.busyHeight order ≤ place.height := by
  unfold Place.busyHeight
  split
  · rename_i waiting
    rw [waiting.1]
    decide
  · exact Nat.le_refl _

variable {place : Place} {pc next : Pc} {self self' : OrderWorkflow} {history : Nat}
  {commands : List Command}

theorem Place.busyHeight_of_ne (order : OrderWorkflow) (other : place ≠ .awaitCourier) :
    place.busyHeight order = place.height := by
  rw [Place.busyHeight, if_neg]
  exact fun waiting => other waiting.1

theorem busyHeight_of_resumePlace {resolution : Resolution} {next : Place}
    (resumed : OrderWorkflow.resumePlace resolution place self = some next) :
    next.busyHeight self < place.height := by
  by_cases waiting : next = .awaitCourier ∧ self.courierId.isSome = true
  · rw [Place.busyHeight, if_pos waiting]
    obtain ⟨rfl, _⟩ := waiting
    cases place with
    | awaitCourier => decide
    | awaitCall activity => cases resolution <;> cases activity <;> cases resumed
    | awaitSleep timer => cases resolution <;> cases timer <;> cases resumed
    | _ => cases resolution <;> cases resumed
  · rw [Place.busyHeight, if_neg waiting]
    unfold OrderWorkflow.resumePlace at resumed
    split at resumed
    case h_1 activity | h_2 activity =>
        cases resumed
        cases activity <;> decide
    case h_3 timer =>
        cases resumed
        cases timer <;> decide
    case h_6 =>
        split at resumed <;> cases resumed
        · exact absurd ⟨rfl, by assumption⟩ waiting
        · decide
    case h_9 => cases resumed
    all_goals
      cases resumed
      decide

theorem busyHeight_of_step
    (stepped : orderWorkflow.step history pc self = .proceed next self' commands) :
    next.place.busyHeight self' < pc.place.busyHeight self := by
  obtain ⟨inp, place⟩ := pc
  refine Nat.lt_of_le_of_lt (next.place.busyHeight_le self') ?_
  by_cases waiting : place = .awaitCourier
  · subst waiting
    simp only [orderWorkflow, OrderWorkflow.step] at stepped
    split at stepped <;> cases stepped
    rename_i present
    rw [Place.busyHeight, if_pos ⟨rfl, present⟩]
    exact Nat.lt_succ_self 9
  · change next.place.height < place.busyHeight self
    rw [Place.busyHeight_of_ne self waiting]
    cases place with
    | awaitCourier => exact absurd rfl waiting
    | start =>
        cases stepped
        change Place.height (if inp.forceTimeout then _ else _) < 30
        split <;> decide
    | call activity =>
        cases stepped
        cases activity <;> exact Nat.lt_succ_self _
    | sleep timer =>
        cases stepped
        cases timer <;> exact Nat.lt_succ_self _
    | awaitCall _ | awaitSleep _ | awaitRequest | awaitSettle | delivered | raised =>
        cases stepped
    | _ =>
        cases stepped
        exact Nat.lt_succ_self _

/-- The saga descends, and never continues as new. -/
def descent : orderWorkflow.Descent where
  idle pc := pc.place.height
  busy pc order := pc.place.busyHeight order
  woken pc order := pc.place.busyHeight_le order
  resumed resumed := by
    exact busyHeight_of_resumePlace (resumes_of_resume resumed).2
  descends stepped := busyHeight_of_step stepped
  suspended {history pc order} suspended := by
    obtain ⟨inp, place⟩ := pc
    have waits : ¬ (place = .awaitCourier ∧ order.courierId.isSome = true) := by
      rintro ⟨rfl, present⟩
      simp [orderWorkflow, OrderWorkflow.step, present, OrderWorkflow.proceed] at suspended
    exact Nat.le_of_eq (if_neg waits).symm
  single := not_continues

end WardenDemo.Order
