import WardenDemo.Dispatch.Visibility
import WardenDemo.Dispatch.Wakeup

/-!
# The degradation a region goes by

A region goes by the last degradation it has handled, over all its runs, but for those it
handles before a run has begun: `run` overwrites them with the one carried over. What it
shows is the status of that degradation, as soon as it owes no upsert.
-/

namespace WardenDemo.Dispatch

open Durable

def Signal.degradation : Signal → Option Degradation
  | .setDegradation degr => some degr
  | .orderReady _ | .courierAvailable _ => none

def handledDegradation : Event → Option Degradation
  | .handled _ _ signal => signal.degradation
  | _ => none

/-- The degradations a region has handled. -/
def degradations (trace : List Event) : List Degradation := collect handledDegradation trace

def keptDegradation : Event → Option Degradation
  | .handled (.entry _) _ _ => none
  | .handled _ _ signal => signal.degradation
  | _ => none

/-- Those it has handled in runs which had begun. -/
def degradationsKept (trace : List Event) : List Degradation := collect keptDegradation trace

def lostDegradation : Event → Option Degradation
  | .handled (.entry _) _ signal => signal.degradation
  | _ => none

/-- Those which a run overwrites as it begins. -/
def degradationsLost (trace : List Event) : List Degradation := collect lostDegradation trace

theorem keptDegradation_shares (event : Event) :
    (keptDegradation event = handledDegradation event ∧ lostDegradation event = none) ∨
      (keptDegradation event = none ∧ lostDegradation event = handledDegradation event) := by
  cases event with
  | handled pc self signal =>
      cases pc with
      | entry state => exact Or.inr ⟨rfl, rfl⟩
      | _ => exact Or.inl ⟨rfl, rfl⟩
  | _ => exact Or.inl ⟨rfl, rfl⟩

/-- The degradation a run goes by, or will once it has begun. -/
def heldDegradation : Pc → DispatchWorkflow → Degradation
  | .entry state, _ => state.degradation.getD {}
  | _, self => self.degr

/-- What a run goes by is the last degradation kept, or the one the chain started with. -/
def GoesByLast (start : DispatchState) (trace : List Event) (pc : Pc) (self : DispatchWorkflow) :
    Prop :=
  heldDegradation pc self = (degradationsKept trace).getLast?.getD (start.degradation.getD {})

section Steps

variable {start : DispatchState} {trace : List Event} {pc next : Pc}
  {self self' : DispatchWorkflow} {history : Nat} {commands : List Command}

theorem GoesByLast.handled (goes : GoesByLast start trace pc self) (signal : Signal) :
    GoesByLast start (trace ++ [.handled pc self signal]) pc (self.handle signal) := by
  unfold GoesByLast degradationsKept at goes ⊢
  rw [collect_append]
  cases pc with
  | entry state => simpa [keptDegradation, heldDegradation] using goes
  | _ =>
      cases signal with
      | setDegradation degr =>
          simp [keptDegradation, Signal.degradation, heldDegradation, DispatchWorkflow.handle]
      | orderReady _ | courierAvailable _ =>
          simpa [keptDegradation, Signal.degradation, heldDegradation,
            DispatchWorkflow.handle] using goes

/-- Events which handle nothing leave a run with what it goes by. -/
theorem GoesByLast.silent (goes : GoesByLast start trace pc self) {events : List Event}
    (nothing : degradationsKept events = [])
    (same : heldDegradation next self' = heldDegradation pc self) :
    GoesByLast start (trace ++ events) next self' := by
  have kept : degradationsKept (trace ++ events) = degradationsKept trace :=
    collect_append_of_nil nothing trace
  rw [GoesByLast, same, kept]
  exact goes

theorem heldDegradation_proceeds (stepped : Proceeds history pc self next self' commands) :
    heldDegradation next self' = heldDegradation pc self := by
  cases stepped <;> rfl

theorem heldDegradation_resumes (resumed : Resumes pc next) :
    heldDegradation next self = heldDegradation pc self := by
  cases resumed <;> rfl

end Steps

def goesByLast (start : DispatchState) : dispatchWorkflow.Invariant start where
  Idle trace pc self _ := GoesByLast start trace pc self
  Busy trace pc self _ := GoesByLast start trace pc self
  initial := rfl
  handled signal goes := goes.handled signal
  advanced goes _ := goes.silent rfl rfl
  resolved goes _ resumed := by
    rw [List.append_assoc]
    exact goes.silent rfl (heldDegradation_resumes (resumes_of_resume resumed))
  proceeds goes stepped :=
    goes.silent (collect_issued (fun _ => rfl) _)
      (heldDegradation_proceeds (proceeds_of_step stepped))
  suspends goes _ := goes
  continues goes stepped := by
    obtain ⟨rfl, _, rfl, rfl⟩ := continues_of_step stepped
    exact goes.silent rfl rfl

section Shown

variable {region : String} {trace : List Event} {pc : Pc} {self : DispatchWorkflow}
  {history : Nat}

/-- A region which owes no upsert shows the status of what it goes by. -/
theorem fleetStatus_of_settled
    (chain : dispatchWorkflow.Chain { region } trace (.running pc self history))
    (settled : owedUpserts pc self = 0) :
    fleetStatus trace = DispatchWorkflow.statusOf (heldDegradation pc self) := by
  have tracked : StatusTracked trace pc self := (statusTracked region).of_running chain
  rw [tracked.written]
  cases pc with
  | entry state => rfl
  | _ =>
      have published : self.status = self.publishedStatus := by
        by_contra stale
        simp [owedUpserts, staleUpserts, stale] at settled
      exact published.symm

/-- It shows the status of the last degradation it has handled, where none is lost. -/
theorem fleetStatus_of_last
    (chain : dispatchWorkflow.Chain { region } trace (.running pc self history))
    (settled : owedUpserts pc self = 0) (kept : degradationsLost trace = []) :
    fleetStatus trace =
      DispatchWorkflow.statusOf ((degradations trace).getLast?.getD {}) := by
  have goes : GoesByLast { region } trace pc self := (goesByLast { region }).of_running chain
  have all : degradationsKept trace = degradations trace :=
    collect_eq_of_nil keptDegradation_shares kept
  rw [fleetStatus_of_settled chain settled, goes, all]
  rfl

/-- A region blocked in its wait owes no upsert. -/
theorem settled_of_waiting {start : DispatchState}
    (chain : dispatchWorkflow.Chain start trace (.running .wait self history)) :
    owedUpserts .wait self = 0 := by
  obtain ⟨_, _, published, _⟩ := wakes_eq_false_iff.mp (asleep_of_chain chain)
  simp [owedUpserts, staleUpserts, published]

end Shown

end WardenDemo.Dispatch
