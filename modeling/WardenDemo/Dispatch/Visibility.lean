import Mathlib.Data.List.Chain
import WardenDemo.Dispatch.Transitions
import WardenDemo.Durable.Schedule
import WardenDemo.Durable.Trace

/-!
# FleetStatus visibility

What visibility shows of a region is what was last written for its execution:
the start attribute, the attributes stamped at continue-as-new, or an upsert.
Each upsert is paid for by a `set_degradation` that changed the status; a change
absorbed by a stamp, or undone by the next signal, costs nothing.
-/

namespace WardenDemo.Dispatch

open Durable

/-- The FleetStatus an event writes for the execution. -/
def writtenStatus : Event → Option FleetStatus
  | .issued (.upsertSearchAttributes status _) => some status
  | .issued (.stampSearchAttributes _ status _) => some status
  | _ => none

/-- The FleetStatus last written; the generator starts a region as healthy. -/
def fleetStatus (trace : List Event) : FleetStatus :=
  (collect writtenStatus trace).getLast?.getD .healthy

def upsertedStatus : Event → Option FleetStatus
  | .issued (.upsertSearchAttributes status _) => some status
  | _ => none

/-- The FleetStatus upserts over a chain. -/
def statusUpserts (trace : List Event) : List FleetStatus := collect upsertedStatus trace

/-- An upsert, or `none` for the end of a run. -/
def statusMark : Event → Option (Option FleetStatus)
  | .issued (.upsertSearchAttributes status _) => some (some status)
  | .continuedAsNew _ => some none
  | _ => none

/-- The upserts of a chain, run by run. -/
def statusMarks (trace : List Event) : List (Option FleetStatus) := collect statusMark trace

/-- The status a handled `set_degradation` has changed to, if it changed it. -/
def flippedStatus : Event → Option FleetStatus
  | .handled _ self (.setDegradation degr) =>
      if DispatchWorkflow.statusOf degr = self.status then none
      else some (DispatchWorkflow.statusOf degr)
  | _ => none

/-- The handled `set_degradation` signals which changed `_status()`. -/
def statusFlips (trace : List Event) : List FleetStatus := collect flippedStatus trace

/-- `_published_status`, or what the next run will start it with. -/
def publishedBy : Pc → DispatchWorkflow → FleetStatus
  | .entry state, _ => DispatchWorkflow.statusOf (state.degradation.getD {})
  | _, self => self.publishedStatus

/-- The upsert a run owes visibility while its status is stale. -/
def staleUpserts (self : DispatchWorkflow) : Nat :=
  if self.status = self.publishedStatus then 0 else 1

def owedUpserts : Pc → DispatchWorkflow → Nat
  | .entry _, _ => 0
  | _, self => staleUpserts self

/-- Two marks in a row are not two upserts of one value. -/
def Alternates (first second : Option FleetStatus) : Prop := first = none ∨ first ≠ second

/-- A mark may follow an upsert of another value, and anything the end of a run. -/
theorem alternates_append {marks : List (Option FleetStatus)} {next : Option FleetStatus}
    (alternates : marks.IsChain Alternates)
    (differs : ∀ status, marks.getLast? = some (some status) → some status ≠ next) :
    (marks ++ [next]).IsChain Alternates := by
  apply alternates.append (.singleton _)
  intro earlier last later head
  obtain rfl : next = later := by simpa using head
  cases earlier with
  | none => exact Or.inl rfl
  | some status => exact Or.inr (differs status last)

/-- What a run has published is what was last written, in alternation, and paid for. -/
structure StatusTracked (trace : List Event) (pc : Pc) (obj : DispatchWorkflow) : Prop where
  written : fleetStatus trace = publishedBy pc obj
  last : ∀ status, (statusMarks trace).getLast? = some (some status) →
    status = publishedBy pc obj
  alternates : (statusMarks trace).IsChain Alternates
  paid : (statusUpserts trace).length + owedUpserts pc obj ≤ (statusFlips trace).length

section Steps

attribute [local simp] fleetStatus writtenStatus statusUpserts upsertedStatus statusMarks
  statusMark statusFlips flippedStatus publishedBy owedUpserts

variable {trace : List Event} {pc next : Pc} {self self' : DispatchWorkflow} {history : Nat}
  {commands : List Command}

/-- A handler publishes nothing. -/
theorem publishedBy_handled (signal : Signal) :
    publishedBy pc (self.handle signal) = publishedBy pc self := by
  cases pc <;> cases signal <;> rfl

/-- A `set_degradation` pays for the upsert it makes due. -/
theorem staleUpserts_handled (signal : Signal) :
    staleUpserts (self.handle signal) ≤
      staleUpserts self + (statusFlips [.handled pc self signal]).length := by
  cases signal with
  | setDegradation degr =>
      have after : (self.handle (.setDegradation degr)).status =
        DispatchWorkflow.statusOf degr := rfl
      by_cases same : DispatchWorkflow.statusOf degr = self.status
      · simp [staleUpserts, after, same]
      · have flips : (statusFlips [.handled pc self (.setDegradation degr)]).length = 1 := by
          simp [same]
        rw [flips, staleUpserts]
        split <;> omega
  | orderReady _ | courierAvailable _ => exact Nat.le_add_right _ _

theorem StatusTracked.handled (holds : StatusTracked trace pc self) (signal : Signal) :
    StatusTracked (trace ++ [.handled pc self signal]) pc (self.handle signal) where
  written := by
    rw [publishedBy_handled]
    simpa using holds.written
  last := by
    rw [publishedBy_handled]
    simpa using holds.last
  alternates := by simpa using holds.alternates
  paid := by
    have paid := holds.paid
    have upserts : statusUpserts (trace ++ [.handled pc self signal]) = statusUpserts trace := by
      simp
    have flips : (statusFlips (trace ++ [.handled pc self signal])).length =
        (statusFlips trace).length + (statusFlips [.handled pc self signal]).length := by
      rw [statusFlips, collect_append, List.length_append, statusFlips, statusFlips]
    have stale : owedUpserts pc (self.handle signal) ≤
        owedUpserts pc self + (statusFlips [.handled pc self signal]).length := by
      cases pc with
      | entry _ => exact Nat.zero_le _
      | _ => exact staleUpserts_handled signal
    rw [upserts, flips]
    omega

/-- Program points which write and mark nothing keep the books as they are. -/
theorem StatusTracked.silent (holds : StatusTracked trace pc self) {events : List Event}
    (nothing : collect writtenStatus events = [] ∧ statusUpserts events = [] ∧
      statusMarks events = [] ∧ statusFlips events = [])
    (published : publishedBy next self' = publishedBy pc self)
    (owed : owedUpserts next self' ≤ owedUpserts pc self) :
    StatusTracked (trace ++ events) next self' := by
  obtain ⟨unwritten, unpaid, unmarked, unflipped⟩ := nothing
  have marks : statusMarks (trace ++ events) = statusMarks trace :=
    collect_append_of_nil unmarked trace
  have upserts : statusUpserts (trace ++ events) = statusUpserts trace :=
    collect_append_of_nil unpaid trace
  have flips : statusFlips (trace ++ events) = statusFlips trace :=
    collect_append_of_nil unflipped trace
  refine ⟨?_, ?_, ?_, ?_⟩
  · rw [published, ← holds.written, fleetStatus, collect_append_of_nil unwritten, fleetStatus]
  · rw [marks, published]
    exact holds.last
  · rw [marks]
    exact holds.alternates
  · have paid := holds.paid
    rw [upserts, flips]
    omega

theorem StatusTracked.proceeds (holds : StatusTracked trace pc self)
    (stepped : Proceeds history pc self next self' commands) :
    StatusTracked (trace ++ commands.map .issued) next self' := by
  cases stepped with
  | entry => exact holds.silent (by simp) rfl (by simp [staleUpserts, DispatchWorkflow.initialise,
      DispatchWorkflow.status])
  | publishes flipped =>
      have paid := holds.paid
      refine ⟨by simp, by simp, ?_, ?_⟩
      · have marks : statusMarks
            (trace ++ [Command.upsertSearchAttributes self.status self.pending.length].map
              .issued) = statusMarks trace ++ [some self.status] := by simp
        rw [marks]
        apply alternates_append holds.alternates
        intro status last same
        apply flipped
        rw [← Option.some.inj same]
        exact holds.last status last
      · have stale : owedUpserts .publish self = 1 := by simp [staleUpserts, flipped]
        have current : owedUpserts .drain { self with publishedStatus := self.status } = 0 := by
          simp [staleUpserts, DispatchWorkflow.status]
        rw [current]
        simp only [statusUpserts, statusFlips, List.map_cons, List.map_nil, collect_append,
          collect_cons, collect_nil, upsertedStatus, flippedStatus, Option.toList_none,
          Option.toList_some, List.append_nil, List.length_append, List.length_singleton] at paid ⊢
        omega
  | _ => exact holds.silent (by simp) rfl (Nat.le_refl _)

/-- Continue-as-new stamps the status the next run starts with. -/
theorem StatusTracked.continues (holds : StatusTracked trace .checkContinue self) :
    StatusTracked
      (trace ++ ([Command.stampSearchAttributes self.region self.status
        self.pending.length].map .issued ++ [.continuedAsNew self.carry]))
      (.entry self.carry) {} := by
  have paid := holds.paid
  refine ⟨?_, ?_, ?_, ?_⟩
  · simp [DispatchWorkflow.carry, DispatchWorkflow.status]
  · simp
  · have marks : statusMarks
        (trace ++ ([Command.stampSearchAttributes self.region self.status
          self.pending.length].map .issued ++ [.continuedAsNew self.carry])) =
        statusMarks trace ++ [none] := by simp
    rw [marks]
    apply alternates_append holds.alternates
    intro status _
    exact Option.some_ne_none status
  · simp only [owedUpserts] at paid ⊢
    simp only [statusUpserts, statusFlips, List.map_cons, List.map_nil, collect_append,
      collect_cons, collect_nil, upsertedStatus, flippedStatus, Option.toList_none,
      List.append_nil] at paid ⊢
    omega

theorem StatusTracked.resumes (holds : StatusTracked trace pc self) (resumed : Resumes pc next) :
    StatusTracked trace next self := by
  cases resumed <;> exact ⟨holds.written, holds.last, holds.alternates, holds.paid⟩

/-- FleetStatus along every chain from the generator's healthy start. -/
def statusTracked (region : String) : dispatchWorkflow.Invariant { region } where
  Idle trace pc self _ := StatusTracked trace pc self
  Busy trace pc self _ := StatusTracked trace pc self
  initial := ⟨rfl, nofun, .nil, Nat.le_refl _⟩
  handled signal holds := holds.handled signal
  advanced holds _ := holds.silent (by simp) rfl (Nat.le_refl _)
  resolved holds _ resumed := by
    rw [List.append_assoc]
    exact (holds.resumes (resumes_of_resume resumed)).silent (by simp) rfl (Nat.le_refl _)
  proceeds holds stepped := holds.proceeds (proceeds_of_step stepped)
  suspends holds _ := holds
  continues holds stepped := by
    obtain ⟨rfl, _, rfl, rfl⟩ := continues_of_step stepped
    exact holds.continues

end Steps

/-- FleetStatus visibility is faithful and costs at most one action per flip,
over every chain from the generator's healthy start: once `run` has begun, what
was last written is `_published_status`; neighbouring upserts of one run differ;
and the upserts are at most the signals which changed the status. -/
theorem status_visibility (region : String) {trace : List Event} {pc : Pc}
    {self : DispatchWorkflow} {history : Nat}
    (chain : dispatchWorkflow.Chain { region } trace (.running pc self history)) :
    ((∀ state, pc ≠ .entry state) → fleetStatus trace = self.publishedStatus) ∧
      (statusMarks trace).IsChain (fun first second => first = none ∨ first ≠ second) ∧
      (statusUpserts trace).length ≤ (statusFlips trace).length := by
  have tracked : StatusTracked trace pc self := (statusTracked region).of_running chain
  refine ⟨?_, tracked.alternates, Nat.le_of_add_right_le tracked.paid⟩
  intro begun
  rw [tracked.written]
  cases pc with
  | entry state => exact absurd rfl (begun state)
  | _ => rfl

/-- S2 on, published, and off again in the middle of the next drain. -/
theorem status_visibility_of_flip :
    ∃ trace self, dispatchWorkflow.Chain { region := "south" } trace
        (.running (.awaitAssign ⟨"o1", "order-o1"⟩ (.synthetic "south" 0)) self 8) ∧
      statusUpserts trace = [.degraded] ∧ fleetStatus trace = self.publishedStatus ∧
      (statusMarks trace).IsChain (fun first second => first = none ∨ first ≠ second) ∧
      (statusUpserts trace).length ≤ (statusFlips trace).length := by
  have chain := Workflow.Chain.of_replay dispatchWorkflow 10 { region := "south" }
    [⟨[], none, 3⟩,
     ⟨[.setDegradation { suspendCan := true }, .orderReady ⟨"o1", "order-o1", "south"⟩], none, 7⟩,
     ⟨[.setDegradation {}], none, 8⟩] rfl
  have visible := status_visibility "south" chain
  exact ⟨_, _, chain, rfl, visible.1 nofun, visible.2.1, visible.2.2⟩

end WardenDemo.Dispatch
