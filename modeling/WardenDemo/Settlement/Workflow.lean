import WardenDemo.Common.Models
import WardenDemo.Durable.Metering
import WardenDemo.Durable.Schedule

/-!
# SettlementWorkflow

The short child an order leaves behind. Its activities run under the default
retry policy, which retries without limit, so they are only ever resolved as
completed. The payout is only known then, and is the one upsert here.
-/

namespace WardenDemo.Settlement

open Durable

inductive Activity where
  | capturePayment
  | computePayout
deriving DecidableEq, Repr

/-- What `compute_payout` returns for any order. -/
def computePayout (_orderId : String) : Rat := 19 / 4

inductive Command where
  | executeActivity (activity : Activity) (orderId : String)
  | upsertCourierPayoutUsd (payout : Rat)
deriving DecidableEq, Repr

inductive Pc where
  | entry (inp : SettlementInput)
  | awaitCapture (inp : SettlementInput)
  | captured (inp : SettlementInput)
  | awaitPayout (inp : SettlementInput)
  | computed (inp : SettlementInput)
  | settled
deriving DecidableEq, Repr

def step (_history : Nat) : Pc → Unit → Action SettlementInput Unit Pc Command String
  | .entry inp, self =>
      .proceed (.awaitCapture inp) self [.executeActivity .capturePayment inp.orderId]
  | .awaitCapture _, _ => .suspend
  | .captured inp, self =>
      .proceed (.awaitPayout inp) self [.executeActivity .computePayout inp.orderId]
  | .awaitPayout _, _ => .suspend
  | .computed inp, self =>
      .proceed .settled self [.upsertCourierPayoutUsd (computePayout inp.orderId)]
  | .settled, _ => .complete "settled"

def resume : Resolution → Pc → Unit → Option Pc
  | .activityCompleted, .awaitCapture inp, _ => some (.captured inp)
  | .activityCompleted, .awaitPayout inp, _ => some (.computed inp)
  | _, _, _ => none

/-- `SettlementWorkflow` as the server runs it; it has no signals. -/
def settlementWorkflow : Workflow SettlementInput Empty Unit Pc Command String where
  init := ()
  handle := nofun
  entry := .entry
  step := step
  resume := resume

abbrev Event := Durable.Event SettlementInput Empty Unit Pc Command String

def Command.isUpsert : Command → Bool
  | .upsertCourierPayoutUsd _ => true
  | .executeActivity _ _ => false

/-- The `upsert_search_attributes` commands of a settlement. -/
def upserts (trace : List Event) : List Command := metered Command.isUpsert trace

/-- The upserts a program point has still ahead of it. -/
def Pc.due : Pc → Nat
  | .settled => 0
  | _ => 1

def upsertMeter : settlementWorkflow.Meter Command.isUpsert where
  Due due pc _ := due = pc.due
  handled signal := signal.elim
  resumed {_ pc _ resolution _} resumed due := by
    subst due
    cases pc <;> cases resolution <;> cases resumed <;> rfl
  proceeds {_ _ pc _ _ _ _} stepped due := by
    subst due
    cases pc <;> cases stepped <;> exact ⟨_, rfl, rfl⟩
  completes {_ _ pc _ _} returned due := by
    cases pc <;> cases returned
    exact due
  single {_ pc _ _ _} stepped := by cases pc <;> cases stepped

/-- A settlement upserts its payout once, whatever its order tracks. -/
theorem length_upserts {inp : SettlementInput} {trace : List Event} {result : String}
    (chain : settlementWorkflow.Chain inp trace (.completed result)) :
    (upserts trace).length = 1 :=
  upsertMeter.length_of_completed rfl chain

/-- A settlement whose activities are answered is settled. -/
theorem settles (inp : SettlementInput) :
    ∃ trace, settlementWorkflow.Chain inp trace (.completed "settled") :=
  ⟨_, Workflow.Chain.of_replay settlementWorkflow 5 inp
    [⟨[], none, 3⟩, ⟨[], some .activityCompleted, 9⟩, ⟨[], some .activityCompleted, 15⟩] rfl⟩

end WardenDemo.Settlement
