import WardenDemo.Courier.Assignments

/-!
# What a shift reports

A shift reports itself, to the region it was started in, once for each assignment it
has accepted at most.
-/

namespace WardenDemo.Courier

open Durable

/-- What an event reports, under the id it is signalled to. -/
def reportedTo : Event → Option (String × CourierAvailable)
  | .issued (.signalCourierAvailable dispatchWfId avail) => some (dispatchWfId, avail)
  | _ => none

/-- The `courier_available` signals of a trace with whom they are for. -/
def reportsTo (trace : List Event) : List (String × CourierAvailable) := collect reportedTo trace

/-- The courier and the region of a run, which it is given and hands on. -/
def identity : Pc → CourierShiftWorkflow → String × String
  | .entry state, _ => (state.courierId, state.region)
  | _, self => (self.courierId, self.region)

/-- What a shift reports. -/
def reportOf (identity : String × String) : String × CourierAvailable :=
  (dispatchId identity.2, ⟨identity.1, identity.2⟩)

/-- A shift keeps its identity, and has reported nothing else. -/
structure Identified (start : CourierState) (trace : List Event) (pc : Pc)
    (shift : CourierShiftWorkflow) : Prop where
  identity : identity pc shift = (start.courierId, start.region)
  reports : ∀ reported ∈ reportsTo trace, reported = reportOf (start.courierId, start.region)

section Steps

variable {start : CourierState} {trace events : List Event} {pc next : Pc}
  {self self' : CourierShiftWorkflow} {history : Nat} {commands : List Command}

theorem Identified.extend (holds : Identified start trace pc self)
    (same : Courier.identity next self' = Courier.identity pc self)
    (reports : ∀ reported ∈ reportsTo events, reported = reportOf (Courier.identity pc self)) :
    Identified start (trace ++ events) next self' := by
  refine ⟨same.trans holds.identity, fun reported mem => ?_⟩
  rw [reportsTo, collect_append, List.mem_append] at mem
  rw [holds.identity] at reports
  exact mem.elim (holds.reports reported) (reports reported)

theorem Identified.proceeds (holds : Identified start trace pc self)
    (stepped : Proceeds history pc self next self' commands) :
    Identified start (trace ++ commands.map .issued) next self' := by
  apply holds.extend
  · cases stepped <;> rfl
  · cases stepped <;> simp [reportsTo, reportedTo, reportOf, Courier.identity]

theorem Identified.resumes (holds : Identified start trace pc self)
    (resumed : Resumes pc next) : Identified start trace next self := by
  refine ⟨?_, holds.reports⟩
  cases resumed <;> exact holds.identity

/-- Signals, program points and continue-as-new leave a shift its identity. -/
def identified (start : CourierState) : courierWorkflow.Invariant start where
  Idle trace pc self _ := Identified start trace pc self
  Busy trace pc self _ := Identified start trace pc self
  initial := ⟨rfl, List.forall_mem_nil _⟩
  handled {_ pc _ _} signal holds := by
    refine holds.extend ?_ (List.forall_mem_nil _)
    cases signal <;> cases pc <;> rfl
  advanced holds _ := holds.extend rfl (List.forall_mem_nil _)
  resolved holds _ resumed := by
    rw [List.append_assoc]
    exact (holds.resumes (resumes_of_resume resumed)).extend rfl (List.forall_mem_nil _)
  proceeds holds stepped := holds.proceeds (proceeds_of_step stepped)
  suspends holds _ := holds
  continues holds stepped := by
    obtain ⟨rfl, _, rfl, rfl⟩ := continues_of_step stepped
    exact holds.extend rfl (List.forall_mem_nil _)

end Steps

section Chains

variable {start : CourierState} {trace : List Event} {config : Config}

/-- Over all its runs a shift reports its own courier, to its own region. -/
theorem reportsTo_of_chain (chain : courierWorkflow.Chain start trace config) :
    ∀ reported ∈ reportsTo trace, reported = reportOf (start.courierId, start.region) :=
  (identified start).everywhere (fun holds => holds.reports) (fun holds => holds.reports)
    (fun _ reports => by simpa [reportsTo, reportedTo] using reports)
    (fun reports => by simpa [reportsTo, reportedTo] using reports) chain

theorem length_reportsTo (trace : List Event) :
    (reportsTo trace).length = (reports trace).length := by
  have same : reports trace = (reportsTo trace).map Prod.snd := by
    rw [reports, reportsTo, collect, collect, List.map_filterMap]
    refine List.filterMap_congr fun event _ => ?_
    cases event with
    | issued command => cases command <;> rfl
    | _ => rfl
  rw [same, List.length_map]

/-- No more reports than acceptances. -/
def ReportsWithin (trace : List Event) : Prop :=
  (reports trace).length ≤ (accepted trace).length

/-- A shift reports once for each assignment it has accepted, or is about to. -/
theorem length_reportsTo_le (fresh : start.assignments = 0)
    (chain : courierWorkflow.Chain start trace config) :
    (reportsTo trace).length ≤ (accepted trace).length := by
  have within : ReportsWithin trace :=
    (assignmentsConserved start fresh).everywhere
      (fun holds => Nat.le_of_add_right_le (Nat.le_of_eq holds.2.reported))
      (fun holds => Nat.le_of_add_right_le (Nat.le_of_eq holds.2.reported))
      (fun _ within => by
        simpa [ReportsWithin, reports, report, accepted, acceptedOrder] using within)
      (fun within => by
        simpa [ReportsWithin, reports, report, accepted, acceptedOrder] using within) chain
  rwa [length_reportsTo]

end Chains

end WardenDemo.Courier
