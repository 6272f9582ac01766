import WardenDemo.Order.Saga

/-!
# The script of an order

But for the courier, everything an order does is read off its input and the
outcomes of its activities: the legs of the saga in order, cut at the first
activity which fails.
-/

namespace WardenDemo.Order

open Durable

/-- A command with the courier left out. -/
def Command.anonymous : Command → Command
  | .upsertSearchAttributes stage (some (.courierId _)) =>
      .upsertSearchAttributes stage (some (.courierId ""))
  | .startSettlement id input attributes =>
      .startSettlement id { input with courierId := "" } { attributes with courierId := "" }
  | command => command

/-- What an order does, as seen without its courier. -/
inductive Milestone where
  | issues (command : Command)
  | returns (result : String)
  | raises
deriving DecidableEq, Repr

/-- The milestone an event is. -/
def milestone : Event → Option Milestone
  | .issued command => some (.issues command.anonymous)
  | .completed result => some (.returns result)
  | .failed => some .raises
  | _ => none

def milestones (trace : List Event) : List Milestone := collect milestone trace

/-- The activity a command executes. -/
def Command.activity : Command → Option Activity
  | .executeActivity activity _ _ => some activity
  | _ => none

/-- The milestones of a list of commands, cut at the first activity which fails. -/
def untilFailure (outcomes : Activity → Bool) : List Command → List Milestone
  | [] => [.returns "delivered"]
  | .executeActivity activity orderId flag :: rest =>
      .issues (.executeActivity activity orderId flag) ::
        if outcomes activity then untilFailure outcomes rest else [.raises]
  | command :: rest => .issues command :: untilFailure outcomes rest

/-- Whether all activities of a list of commands succeed. -/
def succeeds (outcomes : Activity → Bool) (commands : List Command) : Bool :=
  (collect Command.activity commands).all outcomes

def Command.isSettlement : Command → Bool
  | .startSettlement _ _ _ => true
  | _ => false

def Milestone.isSettlement : Milestone → Bool
  | .issues command => command.isSettlement
  | _ => false

/-- The number of settlements started among the milestones of an order. -/
def settlements (script : List Milestone) : Nat := script.countP Milestone.isSettlement

section Cuts

attribute [local simp] succeeds Command.activity settlements Milestone.isSettlement
  Command.isSettlement untilFailure

variable (outcomes : Activity → Bool) (commands : List Command)

/-- A cut list ends with its failure; one which is not cut returns. -/
theorem getLast?_untilFailure :
    (untilFailure outcomes commands).getLast? =
      some (if succeeds outcomes commands then .returns "delivered" else .raises) := by
  fun_induction untilFailure outcomes commands with
  | case1 => rfl
  | case2 activity orderId flag rest ih =>
      by_cases passed : outcomes activity = true
      · rw [if_pos passed, List.getLast?_cons, ih]
        simp [passed]
      · rw [if_neg passed]
        simp [passed]
  | case3 command rest other ih =>
      rw [List.getLast?_cons, ih]
      simp

/-- A settlement at the end is reached when no activity before it fails. -/
theorem settlements_untilFailure (settlement : Command)
    (settles : settlement.isSettlement = true)
    (before : ∀ command ∈ commands, command.isSettlement = false) :
    settlements (untilFailure outcomes (commands ++ [settlement])) =
      if succeeds outcomes commands then 1 else 0 := by
  induction commands with
  | nil =>
      cases settlement with
      | startSettlement id input attributes => rfl
      | _ => cases settles
  | cons command rest ih =>
      have later := ih fun other mem => before other (List.mem_cons_of_mem _ mem)
      have here := before command List.mem_cons_self
      simp only [settlements] at later
      cases command with
      | executeActivity activity orderId flag =>
          by_cases passed : outcomes activity = true
          · simp [passed, later]
          · simp [passed]
      | startSettlement id input attributes => cases here
      | _ => simp [later]

end Cuts

section Legs

variable (inp : OrderInput)

def callLeg (activity : Activity) : List Command :=
  [.executeActivity activity inp.orderId (activity.flag inp)]

def stageLeg (stage : Stage) (extra : Option Extra) : List Command :=
  if inp.trackStages then [.upsertSearchAttributes stage extra] else []

/-- The settlement of an order, with the courier left out. -/
def anonymousSettlement : Command :=
  .startSettlement (settlementId inp.orderId) (settlementOf inp "").1 (settlementOf inp "").2

/-- The legs of the saga of an order without `force_timeout`. -/
def legs : List (List Command) :=
  [callLeg inp .validateOrder, callLeg inp .authorizePayment, callLeg inp .sendToRestaurant,
    [.sleep 10], callLeg inp .pollRestaurantAccept,
    stageLeg inp .preparing (some (.promisedDeliveryAt deliveryPromise)), [.sleep 70],
    [.signalOrderReady (dispatchId inp.region)
      ⟨inp.orderId, orderWfId inp.orderId, inp.region⟩],
    stageLeg inp .awaitingCourier none, callLeg inp .markPickedUp,
    stageLeg inp .inTransit (some (.courierId "")), [.sleep 60], callLeg inp .markDelivered,
    [anonymousSettlement inp]]

/-- The whole saga of an order. -/
def saga : List Command := (legs inp).flatten

/-- All activities of the saga succeed when all there are do. -/
theorem succeeds_saga_iff (outcomes : Activity → Bool) :
    succeeds outcomes (saga inp) = true ↔ ∀ activity, outcomes activity = true := by
  have all : collect Command.activity (saga inp) =
      [.validateOrder, .authorizePayment, .sendToRestaurant, .pollRestaurantAccept,
        .markPickedUp, .markDelivered] := by
    cases tracked : inp.trackStages <;>
      simp [saga, legs, callLeg, stageLeg, tracked, Command.activity, anonymousSettlement]
  rw [succeeds, all, List.all_eq_true]
  constructor
  · intro passed activity
    apply passed
    cases activity <;> decide
  · exact fun passed activity _ => passed activity

/-- The settlement is started once if all activities succeed, and otherwise never. -/
theorem settlements_saga (outcomes : Activity → Bool) :
    settlements (untilFailure outcomes (saga inp)) =
      if succeeds outcomes (saga inp) then 1 else 0 := by
  have ends : saga inp = ((legs inp).take 13).flatten ++ [anonymousSettlement inp] := by
    have split : legs inp = (legs inp).take 13 ++ [[anonymousSettlement inp]] := rfl
    rw [saga, split, List.flatten_append]
    rfl
  have before : ∀ command ∈ ((legs inp).take 13).flatten, command.isSettlement = false := by
    cases tracked : inp.trackStages <;>
      simp [legs, callLeg, stageLeg, tracked, Command.isSettlement]
  have same : succeeds outcomes (saga inp) = succeeds outcomes ((legs inp).take 13).flatten := by
    rw [ends, succeeds, collect_append, List.all_append]
    exact Bool.and_true _
  rw [same, ends]
  exact settlements_untilFailure outcomes _ _ rfl before

end Legs

/-- The leg a place of the saga is to issue next. -/
def Place.leg : Place → Nat
  | .start | .sleep .forceTimeout | .awaitSleep .forceTimeout | .call .validateOrder => 0
  | .awaitCall .validateOrder | .call .authorizePayment => 1
  | .awaitCall .authorizePayment | .call .sendToRestaurant => 2
  | .awaitCall .sendToRestaurant | .sleep .restaurantAccept => 3
  | .awaitSleep .restaurantAccept | .call .pollRestaurantAccept => 4
  | .awaitCall .pollRestaurantAccept | .preparing => 5
  | .sleep .prep => 6
  | .awaitSleep .prep | .requestDispatch => 7
  | .awaitRequest | .awaitingCourier => 8
  | .awaitCourier | .fallback | .call .markPickedUp => 9
  | .awaitCall .markPickedUp | .inTransit => 10
  | .sleep .transit => 11
  | .awaitSleep .transit | .call .markDelivered => 12
  | .awaitCall .markDelivered | .settle => 13
  | .awaitSettle | .delivered | .raised => 14

/-- The part of the saga which a place has still to issue. -/
def Place.rest (inp : OrderInput) (place : Place) : List Command :=
  ((legs inp).drop place.leg).flatten

/-- The milestones a place has still ahead of it. -/
def Place.remaining (outcomes : Activity → Bool) (inp : OrderInput) (place : Place) :
    List Milestone :=
  match place with
  | .awaitCall activity =>
      if outcomes activity then untilFailure outcomes (place.rest inp) else [.raises]
  | .sleep .forceTimeout => .issues (.sleep 30) :: untilFailure outcomes (place.rest inp)
  | .raised => [.raises]
  | _ => untilFailure outcomes (place.rest inp)

/-- An activity goes on to the place which comes after it. -/
theorem Activity.remaining_next (outcomes : Activity → Bool) (inp : OrderInput)
    (activity : Activity) :
    activity.next.remaining outcomes inp =
      untilFailure outcomes ((Place.awaitCall activity).rest inp) := by
  cases activity <;> rfl

theorem Timer.remaining_next (outcomes : Activity → Bool) (inp : OrderInput) (timer : Timer) :
    timer.next.remaining outcomes inp = (Place.awaitSleep timer).remaining outcomes inp := by
  cases timer <;> rfl

section Steps

variable {outcomes : Activity → Bool} {inp : OrderInput} {place : Place}
  {self self' : OrderWorkflow} {history : Nat} {pc : Pc} {commands : List Command}

theorem milestones_issued (commands : List Command) :
    milestones (commands.map .issued) =
      commands.map fun command => .issues command.anonymous := by
  induction commands with
  | nil => rfl
  | cons command rest ih => simpa [milestones, milestone] using ih

/-- The stage a run upserts is the one its input asks for. -/
theorem milestones_stage (tracked : self.trackStages = inp.trackStages) (stage : Stage)
    (extra extra' : Option Extra)
    (masked : (Command.upsertSearchAttributes stage extra).anonymous =
      .upsertSearchAttributes stage extra') (rest : List Command) :
    untilFailure outcomes (stageLeg inp stage extra' ++ rest) =
      milestones ((self.stage stage extra).map .issued) ++ untilFailure outcomes rest := by
  rw [OrderWorkflow.stage, tracked, stageLeg]
  split
  · rw [milestones_issued, List.map_singleton, masked]
    rfl
  · rfl

/-- Going on in the saga issues what is next in the script. -/
theorem remaining_of_step (prompt : inp.forceTimeout = false)
    (tracked : place ≠ .start → self.trackStages = inp.trackStages)
    (stepped : orderWorkflow.step history ⟨inp, place⟩ self = .proceed pc self' commands) :
    place.remaining outcomes inp =
      milestones (commands.map .issued) ++ pc.place.remaining outcomes inp := by
  cases place with
  | start =>
      cases stepped
      rw [prompt]
      rfl
  | call activity =>
      cases stepped
      cases activity <;> rfl
  | sleep timer =>
      cases stepped
      cases timer <;> rfl
  | preparing =>
      cases stepped
      exact milestones_stage (tracked nofun) _ _ _ rfl _
  | awaitingCourier =>
      cases stepped
      exact milestones_stage (tracked nofun) _ _ _ rfl _
  | inTransit =>
      cases stepped
      exact milestones_stage (tracked nofun) _ _ _ rfl _
  | awaitCourier =>
      simp only [orderWorkflow, OrderWorkflow.step] at stepped
      split at stepped <;> cases stepped
      rfl
  | requestDispatch | fallback | settle =>
      cases stepped
      rfl
  | awaitCall _ | awaitSleep _ | awaitRequest | awaitSettle | delivered | raised => cases stepped

end Steps

end WardenDemo.Order
