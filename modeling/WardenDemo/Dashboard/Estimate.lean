import Mathlib.Tactic.Linarith
import WardenDemo.Control.Schema
import WardenDemo.Order.Upserts
import WardenDemo.Settlement.Workflow
import WardenDemo.Traffic.Loops

/-!
# The estimated actions per second

The dashboard multiplies the configured start rate by the actions of one order.
The generator does not start orders at a rate below its floor, and a settlement
upserts its payout whether or not the stages of its order are tracked.
-/

namespace WardenDemo.Dashboard

open Control Traffic

/-- Billable actions added per order run by the mid-run upserts. -/
def orderStageUpsertActions : Nat := 3

def actionsPerOrder (config : Traffic.Config) : Rat :=
  if config.orderStageTracking then 10 + (orderStageUpsertActions + 1) else 10

/-- The order term of the estimate. -/
def orderAps (config : Traffic.Config) : Rat :=
  config.orderStartRatePerSec * actionsPerOrder config

/-- What `/api/health` rounds to one digit and reports. -/
def estimatedAps (config : Traffic.Config) (scenarios : ScenarioMap) : Rat :=
  orderAps config + 37 / 10 + (if (scenarioOf scenarios retryStorm).enabled then 13 else 0) +
    (if (scenarioOf scenarios fanoutStorm).enabled then 10 else 0)

/-- The start rate of the generator with the jitter left out. -/
def nominalRate (config : Traffic.Config) : Rat := 1 / orderDelay config fun _ _ => 0

/-- The generator starts orders at the configured rate or at its floor. -/
theorem nominalRate_eq (config : Traffic.Config) :
    nominalRate config = max (1 / 100) config.orderStartRatePerSec := by
  rw [nominalRate, orderDelay]
  simp

/-- With the same actions on both sides the rates must agree: the floor is not used. -/
theorem rates_agree_iff (rate : Rat) :
    rate * 14 = max (1 / 100) rate * 14 ↔ 1 / 100 ≤ rate := by
  rcases le_total (1 / 100) rate with above | below
  · rw [max_eq_right above]
    exact iff_of_true rfl above
  · rw [max_eq_left below]
    constructor
    · intro agree
      linarith
    · intro above
      linarith

/-- An action left out is not made up for by the floor. -/
theorem payout_left_out (rate : Rat) : rate * 10 ≠ max (1 / 100) rate * 11 := by
  intro agree
  rcases le_total (1 / 100) rate with above | below
  · rw [max_eq_right above] at agree
    linarith
  · rw [max_eq_left below] at agree
    linarith

/-- The order term agrees with the start rate of the generator and the upserts of
each order and its settlement, if and only if the stages are tracked and the
configured rate is not below the floor. -/
theorem order_aps_agrees_iff {config : Traffic.Config} {inp : OrderInput}
    (flagged : inp.trackStages = config.orderStageTracking)
    {trace : List Order.Event} {result : String}
    (chain : Order.orderWorkflow.Chain inp trace (.completed result))
    {settlementTrace : List Settlement.Event}
    (settled : ∃ start ∈ Order.settlementStarts trace, ∃ result,
      Settlement.settlementWorkflow.Chain start.1 settlementTrace (.completed result)) :
    orderAps config = nominalRate config *
        (10 + ((Order.upserts trace).length + (Settlement.upserts settlementTrace).length : Nat)) ↔
      config.orderStageTracking = true ∧ 1 / 100 ≤ config.orderStartRatePerSec := by
  obtain ⟨_, _, _, settlement⟩ := settled
  rw [Order.length_upserts chain, Settlement.length_upserts settlement, flagged, nominalRate_eq,
    orderAps, actionsPerOrder]
  cases config.orderStageTracking with
  | true =>
      have estimated : (10 : Rat) + ((orderStageUpsertActions : Rat) + 1) = 14 := by
        norm_num [orderStageUpsertActions]
      have issued : (10 : Rat) + ((3 + 1 : Nat) : Rat) = 14 := by norm_num
      simp only [if_true, true_and, estimated, issued]
      exact rates_agree_iff config.orderStartRatePerSec
  | false =>
      have issued : (10 : Rat) + ((0 + 1 : Nat) : Rat) = 11 := by norm_num
      simp only [Bool.false_eq_true, if_false, false_and, iff_false, issued]
      exact payout_left_out config.orderStartRatePerSec

/-- Activations which bring an order without `force_timeout` to its end. -/
def delivery : List (Durable.Activation Order.Signal) :=
  [⟨[], none, 3⟩, ⟨[], some .activityCompleted, 9⟩, ⟨[], some .activityCompleted, 15⟩,
    ⟨[], some .activityCompleted, 21⟩, ⟨[], some .timerFired, 26⟩,
    ⟨[], some .activityCompleted, 32⟩, ⟨[], some .timerFired, 38⟩,
    ⟨[.courierAssigned "7-ab"], some .signalSent, 44⟩, ⟨[], some .activityCompleted, 50⟩,
    ⟨[], some .timerFired, 56⟩, ⟨[], some .activityCompleted, 62⟩,
    ⟨[], some .childStarted, 68⟩]

/-- An order delivered under the default configuration. -/
theorem order_aps_agrees_of_default :
    ∃ trace settlementTrace, Order.orderWorkflow.Chain
        { orderId := "0123456789ab", region := "us-west", restaurantId := "r1" } trace
        (.completed "delivered") ∧
      orderAps {} = nominalRate {} *
        (10 + ((Order.upserts trace).length +
          (Settlement.upserts settlementTrace).length : Nat)) := by
  have chain := Durable.Workflow.Chain.of_replay Order.orderWorkflow 10
    { orderId := "0123456789ab", region := "us-west", restaurantId := "r1" } delivery rfl
  obtain ⟨settlementTrace, settlement⟩ := Settlement.settles
    (Order.settlementOf { orderId := "0123456789ab", region := "us-west", restaurantId := "r1" }
      "7-ab").1
  have floor : (1 : Rat) / 100 ≤ 3 / 5 := by norm_num
  exact ⟨_, settlementTrace, chain, (order_aps_agrees_iff rfl chain
    ⟨_, by decide, "settled", settlement⟩).mpr ⟨rfl, floor⟩⟩

/-- With the stages untracked, an order delivered at the default rate still has
the upsert of its settlement, which the estimate leaves out. -/
theorem order_aps_leaves_out_payout :
    ∃ trace settlementTrace, Order.orderWorkflow.Chain
        { orderId := "0123456789ab", region := "us-west", restaurantId := "r1",
          trackStages := false } trace (.completed "delivered") ∧
      (∃ start ∈ Order.settlementStarts trace, Settlement.settlementWorkflow.Chain start.1
        settlementTrace (.completed "settled")) ∧
      orderAps { orderStageTracking := false } ≠ nominalRate { orderStageTracking := false } *
        (10 + ((Order.upserts trace).length +
          (Settlement.upserts settlementTrace).length : Nat)) := by
  have chain := Durable.Workflow.Chain.of_replay Order.orderWorkflow 10
    { orderId := "0123456789ab", region := "us-west", restaurantId := "r1",
      trackStages := false } delivery rfl
  obtain ⟨settlementTrace, settlement⟩ := Settlement.settles
    (Order.settlementOf { orderId := "0123456789ab", region := "us-west", restaurantId := "r1" }
      "7-ab").1
  refine ⟨_, settlementTrace, chain, ⟨_, by decide, settlement⟩, ?_⟩
  rw [Order.length_upserts chain, Settlement.length_upserts settlement, nominalRate_eq]
  have issued : (10 : Rat) + ((0 + 1 : Nat) : Rat) = 11 := by norm_num
  simp only [Bool.false_eq_true, if_false, issued]
  exact payout_left_out _

end WardenDemo.Dashboard
