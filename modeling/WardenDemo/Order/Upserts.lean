import WardenDemo.Order.Saga
import WardenDemo.Durable.Metering

/-!
# The upserts of an order

An order which returns has come by each of the three stage changes once, and so
has upserted three times if it tracks its stages, and otherwise never.
-/

namespace WardenDemo.Order

open Durable

def Command.isUpsert : Command → Bool
  | .upsertSearchAttributes _ _ => true
  | _ => false

/-- The `upsert_search_attributes` commands of an order. -/
def upserts (trace : List Event) : List Command := metered Command.isUpsert trace

/-- The stage changes a place of the saga has still ahead of it. -/
def Place.stagesAhead : Place → Nat
  | .sleep .prep | .awaitSleep .prep | .requestDispatch | .awaitRequest | .awaitingCourier => 2
  | .awaitCourier | .fallback | .call .markPickedUp | .awaitCall .markPickedUp | .inTransit => 1
  | .sleep .transit | .awaitSleep .transit | .call .markDelivered | .awaitCall .markDelivered
  | .settle | .awaitSettle | .delivered | .raised => 0
  | _ => 3

/-- The upserts an order has still ahead of it. -/
def upsertsAhead (inp : OrderInput) (place : Place) : Nat :=
  if inp.trackStages then place.stagesAhead else 0

/-- An order which has not failed goes by its input for the stages. -/
structure UpsertsDue (due : Nat) (pc : Pc) (order : OrderWorkflow) : Prop where
  tracked : pc.place ≠ .start → order.trackStages = pc.inp.trackStages
  due : pc.place ≠ .raised → due = upsertsAhead pc.inp pc.place

section Steps

variable {inp : OrderInput} {place next : Place} {self self' : OrderWorkflow} {history due : Nat}
  {pc : Pc} {commands : List Command}

theorem countP_stage (tracked : self.trackStages = inp.trackStages) (stage : Stage)
    (extra : Option Extra) :
    (self.stage stage extra).countP Command.isUpsert = if inp.trackStages then 1 else 0 := by
  rw [OrderWorkflow.stage, tracked]
  split <;> rfl

/-- Going on in the saga issues an upsert where a stage change is left behind. -/
theorem upsertsAhead_of_step (tracked : place ≠ .start → self.trackStages = inp.trackStages)
    (stepped : orderWorkflow.step history ⟨inp, place⟩ self = .proceed pc self' commands) :
    upsertsAhead inp place = commands.countP Command.isUpsert + upsertsAhead inp pc.place := by
  cases place with
  | start =>
      cases stepped
      have same : Place.stagesAhead
          (if inp.forceTimeout then .sleep .forceTimeout else .call .validateOrder) = 3 := by
        split <;> rfl
      rw [upsertsAhead, upsertsAhead, same]
      exact (Nat.zero_add _).symm
  | call activity =>
      cases stepped
      cases activity <;> exact (Nat.zero_add _).symm
  | sleep timer =>
      cases stepped
      cases timer <;> exact (Nat.zero_add _).symm
  | preparing | awaitingCourier | inTransit =>
      cases stepped
      rw [countP_stage (tracked nofun)]
      unfold upsertsAhead
      split <;> rfl
  | awaitCourier =>
      simp only [orderWorkflow, OrderWorkflow.step] at stepped
      split at stepped <;> cases stepped
      exact (Nat.zero_add _).symm
  | requestDispatch | fallback | settle =>
      cases stepped
      exact (Nat.zero_add _).symm
  | awaitCall _ | awaitSleep _ | awaitRequest | awaitSettle | delivered | raised => cases stepped

/-- An answered await leaves no stage change behind, unless the order fails. -/
theorem stagesAhead_of_resumePlace {resolution : Resolution}
    (resumed : OrderWorkflow.resumePlace resolution place self = some next)
    (goesOn : next ≠ .raised) : next.stagesAhead = place.stagesAhead := by
  unfold OrderWorkflow.resumePlace at resumed
  split at resumed
  case h_1 activity =>
      cases resumed
      cases activity <;> rfl
  case h_3 timer =>
      cases resumed
      cases timer <;> rfl
  case h_2 | h_8 =>
      cases resumed
      exact absurd rfl goesOn
  case h_6 => split at resumed <;> cases resumed <;> rfl
  case h_9 => cases resumed
  all_goals
    cases resumed
    rfl

end Steps

def upsertMeter : orderWorkflow.Meter Command.isUpsert where
  Due := UpsertsDue
  handled signal there := ⟨by cases signal; exact there.tracked, there.due⟩
  resumed {due pc order resolution next} resumed there := by
    obtain ⟨same, reached⟩ := resumes_of_resume resumed
    have begun : pc.place ≠ .start := by
      intro start
      rw [start] at reached
      cases resolution <;> cases reached
    refine ⟨fun _ => same ▸ there.tracked begun, fun goesOn => ?_⟩
    have going : pc.place ≠ .raised := by
      intro raised
      rw [raised] at reached
      cases resolution <;> cases reached
    rw [there.due going, upsertsAhead, upsertsAhead, same,
      stagesAhead_of_resumePlace reached goesOn]
  proceeds {due _ pc order next order' commands} stepped there := by
    obtain ⟨inp, place⟩ := pc
    obtain ⟨same, _, tracks⟩ := moves_of_step stepped
    have going : place ≠ .raised := by
      rintro rfl
      cases stepped
    refine ⟨upsertsAhead inp next.place, ?_, ?_, fun _ => same ▸ rfl⟩
    · rw [there.due going]
      exact upsertsAhead_of_step there.tracked stepped
    · intro _
      rw [tracks, same]
      split
      · rfl
      · exact there.tracked (by assumption)
  completes {due _ pc _ _} returned there := by
    obtain ⟨delivered, _⟩ := completes_of_step returned
    rw [there.due (by rw [delivered]; nofun), delivered]
    exact ite_self 0
  single := not_continues

/-- An order which returns has upserted each of its stages, if it tracks them. -/
theorem length_upserts {inp : OrderInput} {trace : List Event} {result : String}
    (chain : orderWorkflow.Chain inp trace (.completed result)) :
    (upserts trace).length = if inp.trackStages then 3 else 0 := by
  refine upsertMeter.length_of_completed ⟨?_, fun _ => rfl⟩ chain
  intro begun
  exact absurd rfl begun

end WardenDemo.Order
