import WardenDemo.Durable.Invariant
import WardenDemo.Durable.Schedule
import WardenDemo.Order.Upserts

/-!
# What visibility shows of an order

The generator stamps an order at its start, and the order upserts its stage with what is
only known then. So an order which tracks its stages is shown where it is, and one that
does not is shown as placed for good.
-/

namespace WardenDemo.Order

open Durable

/-- The search attributes of an order which change, and those its children share. The stage
is `none` while the order is placed. -/
structure OrderAttributes where
  deliveryRegion : String
  restaurantId : String
  orderStage : Option Stage := none
  promisedDeliveryAt : Option Nat := none
  courierId : Option String := none
deriving DecidableEq, Repr

/-- What `_order_attributes` stamps an order with. -/
def orderAttributes (inp : OrderInput) : OrderAttributes :=
  { deliveryRegion := inp.region, restaurantId := inp.restaurantId }

namespace OrderAttributes

variable (self : OrderAttributes)

def ride : Option Extra → OrderAttributes
  | none => self
  | some (.promisedDeliveryAt minutes) => { self with promisedDeliveryAt := some minutes }
  | some (.courierId courierId) => { self with courierId := some courierId }

/-- An event overwrites what it upserts. -/
def after : Event → OrderAttributes
  | .issued (.upsertSearchAttributes stage extra) =>
      ({ self with orderStage := some stage } : OrderAttributes).ride extra
  | _ => self

end OrderAttributes

/-- What a list filter finds of an order. -/
def shown (inp : OrderInput) (trace : List Event) : OrderAttributes :=
  trace.foldl OrderAttributes.after (orderAttributes inp)

/-- The stage a place of the saga belongs to. -/
def Place.stage : Place → Option Stage
  | .sleep .prep | .awaitSleep .prep | .requestDispatch | .awaitRequest | .awaitingCourier =>
      some .preparing
  | .awaitCourier | .fallback | .call .markPickedUp | .awaitCall .markPickedUp | .inTransit =>
      some .awaitingCourier
  | .sleep .transit | .awaitSleep .transit | .call .markDelivered | .awaitCall .markDelivered
  | .settle | .awaitSettle | .delivered => some .inTransit
  | _ => none

/-- Where an order may be between two activations. -/
def Place.rests : Place → Bool
  | .start | .awaitCall _ | .awaitSleep _ | .awaitRequest | .awaitCourier | .awaitSettle => true
  | _ => false

/-- The attributes of an order at a stage: the promise is made with the first one, and the
courier is known with the last. -/
structure ShownAt (inp : OrderInput) (reached : Option Stage) (attributes : OrderAttributes) :
    Prop where
  region : attributes.deliveryRegion = inp.region
  restaurant : attributes.restaurantId = inp.restaurantId
  stage : attributes.orderStage = reached
  promise : attributes.promisedDeliveryAt = reached.map fun _ => deliveryPromise
  courier : attributes.courierId.isSome = true ↔ reached = some .inTransit

/-- An order which has not failed shows the stage of its place, if it tracks its stages. -/
structure Tracked (inp : OrderInput) (trace : List Event) (pc : Pc) (order : OrderWorkflow) :
    Prop where
  input : pc.inp = inp
  tracked : pc.place ≠ .start → order.trackStages = inp.trackStages
  shows : pc.place ≠ .raised →
    ShownAt inp (if inp.trackStages then pc.place.stage else none) (shown inp trace)

section Steps

variable {inp : OrderInput} {trace events : List Event} {pc next : Pc} {place : Place}
  {self self' : OrderWorkflow} {history : Nat} {commands : List Command}

theorem shown_append (inp : OrderInput) (trace events : List Event) :
    shown inp (trace ++ events) = events.foldl OrderAttributes.after (shown inp trace) :=
  List.foldl_append

/-- The stage of a place goes by the stage changes ahead of it. -/
theorem Place.stage_eq (goesOn : place ≠ .raised) :
    place.stage =
      match place.stagesAhead with
      | 0 => some .inTransit
      | 1 => some .awaitingCourier
      | 2 => some .preparing
      | _ => none := by
  cases place with
  | call activity | awaitCall activity => cases activity <;> rfl
  | sleep timer | awaitSleep timer => cases timer <;> rfl
  | raised => exact absurd rfl goesOn
  | _ => rfl

/-- An answered await stays in its stage, unless the order fails. -/
theorem stage_of_resumePlace {resolution : Resolution} {next : Place}
    (resumed : OrderWorkflow.resumePlace resolution place self = some next)
    (goesOn : next ≠ .raised) : next.stage = place.stage := by
  have going : place ≠ .raised := by
    rintro rfl
    cases resolution <;> cases resumed
  rw [Place.stage_eq goesOn, Place.stage_eq going, stagesAhead_of_resumePlace resumed goesOn]

theorem Tracked.resumes {resolution : Resolution} (holds : Tracked inp trace pc self)
    (resumed : OrderWorkflow.resume resolution pc self = some next) :
    Tracked inp trace next self := by
  obtain ⟨same, reached⟩ := resumes_of_resume resumed
  have begun : pc.place ≠ .start := by
    intro start
    rw [start] at reached
    cases resolution <;> cases reached
  have going : pc.place ≠ .raised := by
    intro raised
    rw [raised] at reached
    cases resolution <;> cases reached
  refine ⟨same.trans holds.input, fun _ => holds.tracked begun, fun goesOn => ?_⟩
  rw [stage_of_resumePlace reached goesOn]
  exact holds.shows going

/-- Events which upsert nothing leave the order shown where it is. -/
theorem Tracked.append (holds : Tracked inp trace pc self)
    (silent : ∀ attributes, events.foldl OrderAttributes.after attributes = attributes) :
    Tracked inp (trace ++ events) pc self := by
  refine ⟨holds.input, holds.tracked, fun goesOn => ?_⟩
  rw [shown_append, silent]
  exact holds.shows goesOn

theorem Tracked.handled (holds : Tracked inp trace pc self) (signal : Signal) :
    Tracked inp (trace ++ [.handled pc self signal]) pc (self.handle signal) := by
  have silent (attributes : OrderAttributes) :
      [Durable.Event.handled pc self signal].foldl OrderAttributes.after attributes =
        attributes := rfl
  have before := holds.append silent
  cases signal
  exact ⟨before.input, before.tracked, before.shows⟩

/-- An upsert overwrites what was shown, if the order tracks its stages. -/
theorem shownAt_of_stage {attributes : OrderAttributes} {reached : Option Stage}
    (tracked : self.trackStages = inp.trackStages) (stage : Stage) (extra : Option Extra)
    (before : ShownAt inp (if inp.trackStages then reached else none) attributes)
    (upserted : ShownAt inp reached attributes →
      ShownAt inp (some stage) (({ attributes with orderStage := some stage } :
        OrderAttributes).ride extra)) :
    ShownAt inp (if inp.trackStages then some stage else none)
      (((self.stage stage extra).map Durable.Event.issued).foldl OrderAttributes.after
        attributes) := by
  rw [OrderWorkflow.stage, tracked]
  split
  · next tracks =>
      rw [if_pos tracks] at before
      exact upserted before
  · next untracked =>
      rw [if_neg untracked] at before
      exact before

theorem Tracked.proceeds (holds : Tracked inp trace pc self)
    (stepped : orderWorkflow.step history pc self = .proceed next self' commands) :
    Tracked inp (trace ++ commands.map .issued) next self' := by
  obtain ⟨input, place⟩ := pc
  obtain rfl : input = inp := holds.input
  obtain ⟨same, _, tracks⟩ := moves_of_step stepped
  have going : place ≠ .raised := by
    rintro rfl
    cases stepped
  have before := holds.shows going
  refine ⟨same, fun _ => ?_, fun _ => ?_⟩
  · rw [tracks]
    split
    · rfl
    · exact holds.tracked (by assumption)
  · rw [shown_append]
    cases place with
    | start =>
        cases stepped
        have placed : Place.stage
            (if input.forceTimeout then .sleep .forceTimeout else .call .validateOrder) = none := by
          split <;> rfl
        rwa [placed]
    | call activity =>
        cases stepped
        cases activity <;> exact before
    | sleep timer =>
        cases stepped
        cases timer <;> exact before
    | preparing =>
        cases stepped
        apply shownAt_of_stage (holds.tracked nofun) _ _ before
        intro placed
        have unknown : (shown input trace).courierId.isSome = true ↔
            some Stage.preparing = some .inTransit := placed.courier.trans (by simp [Place.stage])
        exact ⟨placed.region, placed.restaurant, rfl, rfl, unknown⟩
    | awaitingCourier =>
        cases stepped
        apply shownAt_of_stage (holds.tracked nofun) _ _ before
        intro cooking
        have unknown : (shown input trace).courierId.isSome = true ↔
            some Stage.awaitingCourier = some .inTransit :=
          cooking.courier.trans (by simp [Place.stage])
        exact ⟨cooking.region, cooking.restaurant, rfl, cooking.promise, unknown⟩
    | inTransit =>
        cases stepped
        apply shownAt_of_stage (holds.tracked nofun) _ _ before
        intro waiting
        exact ⟨waiting.region, waiting.restaurant, rfl, waiting.promise, iff_of_true rfl rfl⟩
    | awaitCourier =>
        simp only [orderWorkflow, OrderWorkflow.step] at stepped
        split at stepped <;> cases stepped
        exact before
    | requestDispatch | fallback | settle =>
        cases stepped
        exact before
    | awaitCall _ | awaitSleep _ | awaitRequest | awaitSettle | delivered | raised => cases stepped

end Steps

theorem tracked_initial (inp : OrderInput) : Tracked inp [] ⟨inp, .start⟩ {} := by
  refine ⟨rfl, fun begun => absurd rfl begun, fun _ => ?_⟩
  have placed : ShownAt inp none (orderAttributes inp) :=
    ⟨rfl, rfl, rfl, rfl, iff_of_false nofun nofun⟩
  have unreached : (if inp.trackStages then Place.stage .start else none) = none := by
    split <;> rfl
  rw [unreached]
  exact placed

theorem rests_of_suspend {history : Nat} {pc : Pc} {self : OrderWorkflow}
    (suspended : orderWorkflow.step history pc self = .suspend) : pc.place.rests = true := by
  obtain ⟨inp, place⟩ := pc
  cases place with
  | awaitCall | awaitSleep | awaitRequest | awaitCourier | awaitSettle => rfl
  | _ => cases suspended

/-- The order comes to rest where it is shown. -/
def visibilityInvariant (inp : OrderInput) : orderWorkflow.Invariant inp where
  Idle trace pc order _ := Tracked inp trace pc order ∧ pc.place.rests = true
  Busy trace pc order _ := Tracked inp trace pc order
  initial := ⟨tracked_initial inp, rfl⟩
  handled signal holds := ⟨holds.1.handled signal, holds.2⟩
  advanced holds _ := holds.1.append fun _ => rfl
  resolved holds _ resumed := by
    rw [List.append_assoc]
    exact (holds.1.resumes resumed).append fun _ => rfl
  proceeds holds stepped := holds.proceeds stepped
  suspends holds suspended := ⟨holds, rests_of_suspend suspended⟩
  continues _ stepped := absurd stepped not_continues

/-- At rest, an order of the awaiting_courier stage waits for a courier or for its pickup. -/
theorem Place.awaiting_iff {place : Place} (rests : place.rests = true) :
    place.stage = some .awaitingCourier ↔
      place = .awaitCourier ∨ place = .awaitCall .markPickedUp := by
  cases place with
  | awaitCall activity => cases activity <;> simp [Place.stage]
  | awaitSleep timer => cases timer <;> simp [Place.stage]
  | start | awaitRequest | awaitCourier | awaitSettle => simp [Place.stage]
  | _ => cases rests

/-- An order that goes on shows exactly where it is: the delivery is promised from the moment
the restaurant has accepted, the courier is shown once it has picked up, and a list filter for
awaiting_courier finds the tracked orders which wait for a courier or for the pickup. An order
which does not track its stages stays shown as placed. -/
theorem order_shown_where_it_is {inp : OrderInput} {trace : List Event} {pc : Pc}
    {order : OrderWorkflow} {history : Nat}
    (chain : orderWorkflow.Chain inp trace (.running pc order history)) :
    ShownAt inp (if inp.trackStages then pc.place.stage else none) (shown inp trace) ∧
      ((shown inp trace).orderStage = some .awaitingCourier ↔
        inp.trackStages = true ∧
          (pc.place = .awaitCourier ∨ pc.place = .awaitCall .markPickedUp)) := by
  obtain ⟨tracked, rests⟩ := (visibilityInvariant inp).of_running chain
  have going : pc.place ≠ .raised := by
    intro raised
    rw [raised] at rests
    cases rests
  have shownAt := tracked.shows going
  refine ⟨shownAt, ?_⟩
  rw [shownAt.stage, ← Place.awaiting_iff rests]
  cases inp.trackStages <;> simp

/-- A delivered order is left shown in transit: that it is delivered, its status says. -/
theorem delivered_shown_in_transit {inp : OrderInput} {trace : List Event} {result : String}
    (chain : orderWorkflow.Chain inp trace (.completed result)) :
    ShownAt inp (if inp.trackStages then some .inTransit else none) (shown inp trace) := by
  obtain ⟨before, pc, order, history, rfl, tracked, completes⟩ :=
    (visibilityInvariant inp).of_completed chain
  have busy : Tracked inp before pc order := tracked
  have delivered : pc.place = .delivered := (completes_of_step completes).1
  have going : pc.place ≠ .raised := by
    intro raised
    cases delivered.symm.trans raised
  have shownAt := busy.shows going
  rw [delivered] at shownAt
  rw [shown_append]
  exact shownAt

/-- An order whose region has not replied yet. -/
theorem order_shown_where_it_is_of_waiting :
    ∃ trace pc order history, orderWorkflow.Chain
        ⟨"0123456789ab", "us-west", "rest-1", false, false, false, true⟩ trace
        (.running pc order history) ∧
      (shown ⟨"0123456789ab", "us-west", "rest-1", false, false, false, true⟩ trace).orderStage =
        some .awaitingCourier := by
  have chain := Workflow.Chain.of_replay orderWorkflow 10
    ⟨"0123456789ab", "us-west", "rest-1", false, false, false, true⟩
    [⟨[], none, 3⟩, ⟨[], some .activityCompleted, 9⟩, ⟨[], some .activityCompleted, 15⟩,
      ⟨[], some .activityCompleted, 21⟩, ⟨[], some .timerFired, 25⟩,
      ⟨[], some .activityCompleted, 31⟩, ⟨[], some .timerFired, 36⟩,
      ⟨[], some .signalSent, 41⟩] rfl
  exact ⟨_, _, _, _, chain, (order_shown_where_it_is chain).2.mpr ⟨rfl, Or.inl rfl⟩⟩

end WardenDemo.Order
