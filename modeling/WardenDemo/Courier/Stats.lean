import WardenDemo.Courier.Assignments

/-!
# What a shift tells of itself

The totals a shift answers with are those of all its runs. A ping is counted once its run
has begun: one that is handled before is overwritten by the carried total.
-/

namespace WardenDemo.Courier

open Durable

/-- The answer of `get_stats`. -/
structure Stats where
  courierId : String
  region : String
  vehicleType : String
  assignments : Nat
  pings : Nat
deriving DecidableEq, Repr

def CourierShiftWorkflow.getStats (self : CourierShiftWorkflow) : Stats where
  courierId := self.courierId
  region := self.region
  vehicleType := self.vehicleType
  assignments := self.count
  pings := self.pings

/-- The totals a run begins with. -/
def carriedStats (state : CourierState) : Stats where
  courierId := state.courierId
  region := state.region
  vehicleType := state.vehicleType
  assignments := state.assignments
  pings := state.pings

/-- What the run tells, or will tell once it has begun. -/
def heldStats : Pc → CourierShiftWorkflow → Stats
  | .entry state, _ => carriedStats state
  | _, self => self.getStats

def Pc.begun : Pc → Bool
  | .entry _ => false
  | _ => true

/-- A ping handled by a run which has begun. -/
def countedPing : Event → Option Unit
  | .handled pc _ .locationPing => if pc.begun then some () else none
  | _ => none

def pingsCounted (trace : List Event) : List Unit := collect countedPing trace

/-- The totals of a shift after a trace. -/
def totals (start : CourierState) (trace : List Event) : Stats :=
  { carriedStats start with
    assignments := start.assignments + (accepted trace).length
    pings := start.pings + (pingsCounted trace).length }

/-- The totals, less the acceptance which is not counted yet. -/
def Told (start : CourierState) (trace : List Event) (pc : Pc) (shift : CourierShiftWorkflow) :
    Prop :=
  { heldStats pc shift with assignments := (heldStats pc shift).assignments + unreported pc } =
    totals start trace

section Steps

attribute [local simp] Told totals carriedStats CourierShiftWorkflow.getStats heldStats accepted
  acceptedOrder pingsCounted countedPing unreported Pc.begun

variable {start : CourierState} {trace : List Event} {pc next : Pc}
  {self self' : CourierShiftWorkflow} {history : Nat} {commands : List Command}

theorem Told.handled (told : Told start trace pc self) (signal : Signal) :
    Told start (trace ++ [.handled pc self signal]) pc (self.handle signal) := by
  cases signal with
  | locationPing => cases pc <;> simp_all [CourierShiftWorkflow.handle] <;> omega
  | assignment | endShift => cases pc <;> simpa [CourierShiftWorkflow.handle] using told

theorem Told.advanced (told : Told start trace pc self) :
    Told start (trace ++ [.advanced pc self history]) pc self := by
  simpa using told

theorem Told.resumed (told : Told start trace pc self) {resolution : Resolution}
    (resumed : CourierShiftWorkflow.resume resolution pc self = some next) :
    Told start (trace ++ [.resolved pc resolution]) next self := by
  unfold CourierShiftWorkflow.resume at resumed
  split at resumed <;> cases resumed
  · simp_all
    omega
  all_goals simpa using told

theorem Told.proceeds (told : Told start trace pc self)
    (stepped : Proceeds history pc self next self' commands) :
    Told start (trace ++ commands.map .issued) next self' := by
  cases stepped <;> simpa [CourierShiftWorkflow.initialise] using told

/-- A run hands on what it tells. -/
theorem Told.continues (told : Told start trace .checkHistory self) {command : Command} :
    Told start (trace ++ ([.issued command] ++ [.continuedAsNew self.carry]))
      (.entry self.carry) {} := by
  simpa [CourierShiftWorkflow.carry] using told

end Steps

/-- A shift tells its totals along every chain. -/
def tells (start : CourierState) : courierWorkflow.Invariant start where
  Idle trace pc self _ := Resting pc ∧ Told start trace pc self
  Busy trace pc self _ := Told start trace pc self
  initial := ⟨trivial, rfl⟩
  handled signal holds := ⟨holds.1, holds.2.handled signal⟩
  advanced holds _ := holds.2.advanced
  resolved holds _ resumed := (holds.2.resumed resumed).advanced
  proceeds holds stepped := holds.proceeds (proceeds_of_step stepped)
  suspends holds suspended := by
    refine ⟨?_, holds⟩
    rcases suspends_of_step suspended with ⟨rfl, _⟩ | ⟨_, rfl⟩ | rfl
    all_goals trivial
  continues holds stepped := by
    obtain ⟨rfl, _, rfl, rfl⟩ := continues_of_step stepped
    exact ⟨trivial, holds.continues⟩

/-- What a shift answers while it runs, and what it returns with. -/
def TellsTotals (start : CourierState) (trace : List Event) : Config → Prop
  | .running pc self _ => heldStats pc self = totals start trace
  | .completed result =>
      result = CourierShiftWorkflow.shiftEnded start.courierId (totals start trace).assignments
  | .failed => False

/-- Along every chain of a shift, whatever it is signalled and however its runs are cut, it
answers with who it is and with the totals over all its runs: the assignments accepted, and
the pings handled by a run that had begun. It returns with the assignments accepted. -/
theorem shift_tells_totals {start : CourierState} {trace : List Event} {config : Config}
    (chain : courierWorkflow.Chain start trace config) : TellsTotals start trace config := by
  cases config with
  | running pc self history =>
      obtain ⟨resting, told⟩ := (tells start).of_running chain
      have settled : unreported pc = 0 := by
        cases pc with
        | accepted => exact resting.elim
        | _ => rfl
      rw [Told, settled] at told
      exact told
  | completed result =>
      obtain ⟨before, pc, self, history, rfl, told, stepped⟩ := (tells start).of_completed chain
      obtain ⟨rfl, _, returned⟩ := completes_of_step stepped
      have told : Told start before .checkEnd self := told
      have courier : self.courierId = start.courierId := congrArg Stats.courierId told
      have count : self.count = (totals start before).assignments := congrArg Stats.assignments told
      have same : (totals start (before ++ [.completed result])).assignments =
          (totals start before).assignments := by
        simp [totals, accepted, acceptedOrder]
      rw [TellsTotals, same, ← courier, ← count, returned]
  | failed =>
      obtain ⟨_, _, _, _, _, _, stepped⟩ := (tells start).of_chain chain
      exact absurd stepped not_fails

/-- A shift of two runs with an assignment accepted in each; the ping which comes before
either run begins is not counted. -/
theorem shift_tells_totals_of_two :
    ∃ trace self, courierWorkflow.Chain { courierId := "7-ab", region := "us-west" } trace
        (.running .wait self 14) ∧
      successors trace =
        [{ courierId := "7-ab", region := "us-west", assignments := 1, pings := 1 }] ∧
      self.getStats = ⟨"7-ab", "us-west", "bike", 2, 2⟩ := by
  have chain := Workflow.Chain.of_replay courierWorkflow 10
    { courierId := "7-ab", region := "us-west" }
    [⟨[.locationPing, .assignment "o1"], none, 3⟩, ⟨[], some .activityCompleted, 9⟩,
      ⟨[.locationPing], some .signalSent, 1503⟩,
      ⟨[.locationPing, .assignment "o2"], none, 3⟩, ⟨[], some .activityCompleted, 9⟩,
      ⟨[.locationPing], some .signalSent, 14⟩] rfl
  exact ⟨_, _, chain, rfl, shift_tells_totals chain⟩

end WardenDemo.Courier
