import WardenDemo.Order.Saga
import WardenDemo.Durable.Invariant
import WardenDemo.Durable.Schedule

/-!
# The courier an order settles with

The courier is read when the in_transit stage is published, and read again when
the settlement is started. An order settles with the courier it published when
nothing assigned to it in between names another one.
-/

namespace WardenDemo.Order

open Durable

/-- A courier assigned before the in_transit stage is published. -/
def earlyCourier : Event → Option String
  | .handled pc _ (.courierAssigned courierId) =>
      match pc.place.phase with
      | .waiting | .chosen => some courierId
      | _ => none
  | _ => none

/-- A courier assigned after that, and before the settlement is started. -/
def lateCourier : Event → Option String
  | .handled pc _ (.courierAssigned courierId) =>
      match pc.place.phase with
      | .carrying => some courierId
      | _ => none
  | _ => none

def earlyCouriers (trace : List Event) : List String := collect earlyCourier trace

def lateCouriers (trace : List Event) : List String := collect lateCourier trace

/-- The last of the assigned couriers, or the synthetic one. -/
def carrier (inp : OrderInput) (assigned : List String) : String :=
  assigned.getLast?.getD (syntheticCourier inp.orderId)

/-- What an order has published and settled, and who carries it, in each phase. -/
def CarriedIn (inp : OrderInput) (published : List String)
    (settled : List (SettlementInput × SettlementAttributes)) (early late : List String) :
    Phase → Option String → Prop
  | .waiting, courierId =>
      published = [] ∧ settled = [] ∧ late = [] ∧ courierId = early.getLast?
  | .chosen, courierId =>
      published = [] ∧ settled = [] ∧ late = [] ∧ courierId = some (carrier inp early)
  | .carrying, courierId =>
      published = [orUnknown (some (carrier inp early))] ∧ settled = [] ∧
        courierId = some (carrier inp (early ++ late))
  | .settled, _ =>
      published = [orUnknown (some (carrier inp early))] ∧
        settled = [settlementOf inp (orUnknown (some (carrier inp (early ++ late))))]
  | .failed, _ => True

/-- The saga of one input, at its place and with its input stamped. -/
structure Carried (inp : OrderInput) (trace : List Event) (pc : Pc) (obj : OrderWorkflow) :
    Prop where
  input : pc.inp = inp
  tracked : pc.place ≠ .start → obj.trackStages = inp.trackStages
  deserted : pc.place = .fallback → obj.courierId = none
  carried : CarriedIn inp (publications trace) (settlementStarts trace) (earlyCouriers trace)
    (lateCouriers trace) pc.place.phase obj.courierId

section Steps

attribute [local simp] publications publication settlementStarts settlementStart
  earlyCouriers earlyCourier lateCouriers lateCourier

variable {inp : OrderInput} {trace events : List Event} {pc next : Pc} {place : Place}
  {self self' : OrderWorkflow} {history : Nat} {commands : List Command}

/-- Events which assign, publish and settle nothing change nothing. -/
theorem Carried.append (holds : Carried inp trace pc self)
    (unpublished : publications events = []) (unsettled : settlementStarts events = [])
    (early : earlyCouriers events = []) (late : lateCouriers events = []) :
    Carried inp (trace ++ events) pc self := by
  have carried := holds.carried
  simp only [publications, settlementStarts, earlyCouriers, lateCouriers]
    at unpublished unsettled early late carried
  refine ⟨holds.input, holds.tracked, holds.deserted, ?_⟩
  simpa [unpublished, unsettled, early, late] using carried

/-- A handler assigns the courier in whatever phase the saga is. -/
theorem Carried.handled (holds : Carried inp trace pc self) (onward : pc.place ≠ .fallback)
    (signal : Signal) :
    Carried inp (trace ++ [.handled pc self signal]) pc (self.handle signal) := by
  obtain ⟨courierId⟩ := signal
  refine ⟨holds.input, holds.tracked, fun fallback => absurd fallback onward, ?_⟩
  have carried := holds.carried
  cases phase : pc.place.phase with
  | waiting =>
      rw [phase] at carried
      obtain ⟨unpublished, unsettled, none, _⟩ := carried
      exact ⟨by simpa using unpublished, by simpa using unsettled, by simpa [phase] using none,
        by simp [phase, OrderWorkflow.handle]⟩
  | chosen =>
      rw [phase] at carried
      obtain ⟨unpublished, unsettled, none, _⟩ := carried
      exact ⟨by simpa using unpublished, by simpa using unsettled, by simpa [phase] using none,
        by simp [phase, OrderWorkflow.handle, carrier]⟩
  | carrying =>
      rw [phase] at carried
      obtain ⟨published, unsettled, _⟩ := carried
      exact ⟨by simpa [phase] using published, by simpa using unsettled,
        by simp [phase, OrderWorkflow.handle, carrier]⟩
  | settled =>
      rw [phase] at carried
      obtain ⟨published, settled⟩ := carried
      exact ⟨by simpa [phase] using published, by simpa [phase] using settled⟩
  | failed => trivial

/-- Moving on in the saga keeps track of the courier. -/
theorem Carried.moves {next : Place} (tracking : inp.trackStages = true)
    (holds : Carried inp trace ⟨inp, place⟩ self)
    (moved : Moves inp place self next self' commands) :
    CarriedIn inp (publications (trace ++ commands.map .issued))
      (settlementStarts (trace ++ commands.map .issued))
      (earlyCouriers (trace ++ commands.map .issued))
      (lateCouriers (trace ++ commands.map .issued)) next.phase self'.courierId := by
  have carried := holds.carried
  have early : earlyCouriers (trace ++ commands.map .issued) = earlyCouriers trace :=
    collect_append_issued (fun _ => rfl) trace commands
  have late : lateCouriers (trace ++ commands.map .issued) = lateCouriers trace :=
    collect_append_issued (fun _ => rfl) trace commands
  rw [early, late]
  cases moved with
  | keeps phase _ courier unpublished unsettled =>
      simp only [publications, settlementStarts] at unpublished unsettled carried ⊢
      rw [collect_append, collect_append, unpublished, unsettled, List.append_nil,
        List.append_nil, phase, courier]
      exact carried
  | satisfied present =>
      obtain ⟨unpublished, unsettled, none, assigned⟩ := carried
      obtain ⟨courierId, known⟩ := Option.isSome_iff_exists.mp present
      refine ⟨by simpa using unpublished, by simpa using unsettled, none, ?_⟩
      rw [carrier, ← assigned, known, Option.getD_some]
  | fallsBack =>
      obtain ⟨unpublished, unsettled, none, assigned⟩ := carried
      have deserted := holds.deserted rfl
      change self.courierId = _ at assigned
      refine ⟨by simpa using unpublished, by simpa using unsettled, none, ?_⟩
      rw [carrier, ← assigned, deserted, Option.getD_none]
  | publishes =>
      obtain ⟨unpublished, unsettled, none, assigned⟩ := carried
      have tracked : self.trackStages = true := (holds.tracked nofun).trans tracking
      change self.courierId = some (carrier inp _) at assigned
      refine ⟨?_, ?_, ?_⟩
      · simpa [OrderWorkflow.stage, tracked, assigned] using unpublished
      · simpa [OrderWorkflow.stage, tracked] using unsettled
      · rw [none, List.append_nil]
        exact assigned
  | settles =>
      obtain ⟨published, unsettled, assigned⟩ := carried
      change self.courierId = some (carrier inp _) at assigned
      refine ⟨by simpa [OrderWorkflow.settlement] using published, ?_⟩
      simp only [settlementStarts] at unsettled
      simp [OrderWorkflow.settlement, settlementOf, unsettled, assigned]

theorem Carried.proceeds (tracking : inp.trackStages = true) (holds : Carried inp trace pc self)
    (stepped : orderWorkflow.step history pc self = .proceed next self' commands) :
    Carried inp (trace ++ commands.map .issued) next self' := by
  obtain ⟨input, place⟩ := pc
  obtain rfl : input = inp := holds.input
  obtain ⟨same, moved, tracked⟩ := moves_of_step stepped
  refine ⟨same, fun _ => ?_, fun fallback => absurd fallback moved.onward,
    holds.moves tracking moved⟩
  split at tracked
  · exact tracked
  · next later => exact tracked.trans (holds.tracked later)

/-- Resolving an await leaves the courier alone, and reaches the fallback only
without one. -/
theorem Carried.resumes (holds : Carried inp trace pc self) {resolution : Resolution}
    (resumed : OrderWorkflow.resume resolution pc self = some next) :
    Carried inp trace next self := by
  obtain ⟨same, reached⟩ := resumes_of_resume resumed
  have carried := holds.carried
  have tracked : self.trackStages = inp.trackStages := by
    refine holds.tracked fun start => ?_
    rw [start] at reached
    cases resolution <;> cases reached
  rcases resumes_of_resumePlace reached with
    ⟨phase, onward⟩ | ⟨waiting, fallback, deserted⟩ | raised
  · refine ⟨same.trans holds.input, fun _ => tracked,
      fun fallback => absurd fallback onward, ?_⟩
    rw [phase]
    exact carried
  · refine ⟨same.trans holds.input, fun _ => tracked, fun _ => deserted, ?_⟩
    rw [waiting] at carried
    rw [fallback]
    exact carried
  · refine ⟨same.trans holds.input, fun _ => tracked, fun fallback => ?_, ?_⟩
    · rw [raised] at fallback
      cases fallback
    · rw [raised]
      trivial

/-- The courier of an order, along the one run of its saga. -/
def courierCarried (inp : OrderInput) (tracking : inp.trackStages = true) :
    orderWorkflow.Invariant inp where
  Idle trace pc self _ := pc.place ≠ .fallback ∧ Carried inp trace pc self
  Busy trace pc self _ := Carried inp trace pc self
  initial := ⟨nofun, rfl, fun later => absurd rfl later, nofun, rfl, rfl, rfl, rfl⟩
  handled signal holds := ⟨holds.1, holds.2.handled holds.1 signal⟩
  advanced holds _ := holds.2.append rfl rfl rfl rfl
  resolved holds _ resumed := by
    rw [List.append_assoc]
    exact (holds.2.resumes resumed).append rfl rfl rfl rfl
  proceeds holds stepped := holds.proceeds tracking stepped
  suspends holds suspended := ⟨onward_of_suspend suspended, holds⟩
  continues _ stepped := absurd stepped not_continues

end Steps

/-- The carrier is the last courier assigned late, or the carrier there was. -/
theorem carrier_of_late (inp : OrderInput) (early late : List String) :
    carrier inp (early ++ late) = late.getLast?.getD (carrier inp early) := by
  rw [carrier, List.getLast?_append]
  cases late.getLast? <;> rfl

/-- What a delivered order has published and settled. -/
theorem settled_of_completed {inp : OrderInput} (tracking : inp.trackStages = true)
    {trace : List Event} {result : String}
    (chain : orderWorkflow.Chain inp trace (.completed result)) :
    publications trace = [orUnknown (some (carrier inp (earlyCouriers trace)))] ∧
      settlementStarts trace = [settlementOf inp
        (orUnknown (some (carrier inp (earlyCouriers trace ++ lateCouriers trace))))] := by
  obtain ⟨before, pc, self, history, rfl, holds, stepped⟩ :=
    (courierCarried inp tracking).of_completed chain
  have ended : Carried inp (before ++ [.completed result]) pc self :=
    Carried.append holds rfl rfl rfl rfl
  have carried := ended.carried
  rw [(completes_of_step stepped).1] at carried
  exact carried

/-- An order with stage tracking which is delivered publishes one courier and
starts one settlement. The CourierId of both the settlement's input and its
attributes is the published one if and only if the last courier assigned in
between, if any, is the one published. -/
theorem settles_published_iff {inp : OrderInput} (tracking : inp.trackStages = true)
    {trace : List Event} (chain : orderWorkflow.Chain inp trace (.completed "delivered")) :
    (∃ courierId settlement, publications trace = [courierId] ∧
        settlementStarts trace = [settlement] ∧ settlement.1.courierId = courierId ∧
        settlement.2.courierId = courierId) ↔
      ∀ courierId, (lateCouriers trace).getLast? = some courierId →
        orUnknown (some courierId) = orUnknown (some (carrier inp (earlyCouriers trace))) := by
  obtain ⟨published, settled⟩ := settled_of_completed tracking chain
  rw [published, settled, carrier_of_late]
  constructor
  · rintro ⟨courierId, settlement, ⟨rfl⟩, ⟨rfl⟩, same, _⟩ late assigned
    rw [assigned] at same
    exact same
  · intro agrees
    refine ⟨_, _, rfl, rfl, ?_⟩
    cases assigned : (lateCouriers trace).getLast? with
    | none => exact ⟨rfl, rfl⟩
    | some courierId => exact ⟨agrees courierId assigned, agrees courierId assigned⟩

/-- The activations of an order up to its wait for a courier. -/
def untilCourier : List (Activation Signal) :=
  [⟨[], none, 3⟩, ⟨[], some .activityCompleted, 9⟩, ⟨[], some .activityCompleted, 15⟩,
    ⟨[], some .activityCompleted, 21⟩, ⟨[], some .timerFired, 25⟩,
    ⟨[], some .activityCompleted, 31⟩, ⟨[], some .timerFired, 36⟩, ⟨[], some .signalSent, 41⟩]

/-- An order whose courier is assigned during the wait. -/
theorem settles_published_of_reply :
    ∃ trace, orderWorkflow.Chain ⟨"0123456789ab", "us-west", "rest-1", false, false, false, true⟩
        trace (.completed "delivered") ∧
      ∃ courierId settlement, publications trace = [courierId] ∧
        settlementStarts trace = [settlement] ∧ settlement.1.courierId = courierId ∧
        settlement.2.courierId = courierId := by
  have chain := Workflow.Chain.of_replay orderWorkflow 10
    ⟨"0123456789ab", "us-west", "rest-1", false, false, false, true⟩
    (untilCourier ++ [⟨[.courierAssigned "7-ab"], none, 45⟩, ⟨[], some .activityCompleted, 51⟩,
      ⟨[], some .timerFired, 56⟩, ⟨[], some .activityCompleted, 62⟩,
      ⟨[], some .childStarted, 67⟩]) rfl
  exact ⟨_, chain, (settles_published_iff rfl chain).mpr nofun⟩

/-- A reply of dispatch which comes during the transit timer, after the order
has published its synthetic courier, is the one it settles with. -/
theorem settles_with_late_reply :
    ∃ trace, orderWorkflow.Chain ⟨"0123456789ab", "us-west", "rest-1", false, false, false, true⟩
        trace (.completed "delivered") ∧
      ¬ ∃ courierId settlement, publications trace = [courierId] ∧
        settlementStarts trace = [settlement] ∧ settlement.1.courierId = courierId ∧
        settlement.2.courierId = courierId := by
  have chain := Workflow.Chain.of_replay orderWorkflow 10
    ⟨"0123456789ab", "us-west", "rest-1", false, false, false, true⟩
    (untilCourier ++ [⟨[], some .timerFired, 45⟩, ⟨[], some .activityCompleted, 51⟩,
      ⟨[.courierAssigned "7-ab"], some .timerFired, 57⟩, ⟨[], some .activityCompleted, 63⟩,
      ⟨[], some .childStarted, 68⟩]) rfl
  refine ⟨_, chain, ?_⟩
  rintro ⟨courierId, settlement, published, settled, same, _⟩
  cases published
  cases settled
  exact absurd same (by decide)

end WardenDemo.Order
