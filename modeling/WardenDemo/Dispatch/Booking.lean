import WardenDemo.Dispatch.Bound
import WardenDemo.Dispatch.Matching

/-!
# Bookings of one courier

The pool is a queue of reports, not a set of couriers: a courier stands in it
once for each report which was not taken yet. A made-up id names the orders of a
run by number, and the numbers start again with the next run.
-/

namespace WardenDemo.Dispatch

open Durable

/-- A courier id which no region makes up. -/
def Genuine (courierId : String) : Prop :=
  ∀ region processed, courierId ≠ (Courier.synthetic region processed).id

/-- No courier of the pool a chain starts with, or reported to it, goes by a
made-up id. -/
def GenuineReports (start : DispatchState) (trace : List Event) : Prop :=
  ∀ courierId ∈ start.availableCouriers ++ couriersAvailable trace, Genuine courierId

/-- Why a courier may be booked again: it has reported since, it stood in the
pool once more when it was booked, or it is made up and a new run has begun. -/
def Rebookable (first : Assignment) (after : List Event) : Prop :=
  first.courier.id ∈ couriersAvailable after ∨
    match first.courier with
    | .pooled courierId => 1 < first.pool.count courierId
    | .synthetic _ _ => successors after ≠ []

/-- Two bookings of one courier are apart. -/
def BookedApart (first : Assignment) (between : List Event) (second : Assignment) : Prop :=
  first.courier.id = second.courier.id → Rebookable first between

def heldRegion : Pc → DispatchWorkflow → String
  | .entry state, _ => state.region
  | _, self => self.region

def heldProcessed : Pc → DispatchWorkflow → Nat
  | .entry state, _ => state.processed
  | _, self => self.processed

/-- A courier the region cannot book next: it is gone from the pool, or its
number is used up. -/
def Unavailable (courier : Courier) (pc : Pc) (self : DispatchWorkflow) : Prop :=
  match courier with
  | .pooled courierId => Genuine courierId ∧ courierId ∉ heldCouriers pc self
  | .synthetic region processed =>
      region = heldRegion pc self ∧ processed < heldProcessed pc self + inFlight pc

def Away (pc : Pc) (self : DispatchWorkflow) (first : Assignment) (after : List Event) : Prop :=
  Rebookable first after ∨ Unavailable first.courier pc self

/-- Every booked courier is away, and any two bookings of one are apart. -/
structure Booked (trace : List Event) (pc : Pc) (region : DispatchWorkflow) : Prop where
  away : Followed assignment (Away pc region) trace
  apart : Spaced assignment BookedApart trace

section Steps

attribute [local simp] heldCouriers heldRegion heldProcessed inFlight

variable {start : DispatchState} {trace events : List Event} {pc next : Pc}
  {self self' : DispatchWorkflow} {history : Nat} {commands : List Command}
  {first second : Assignment} {after : List Event}

theorem Rebookable.append (holds : Rebookable first after) (events : List Event) :
    Rebookable first (after ++ events) := by
  rcases holds with reported | again
  · left
    rw [couriersAvailable, collect_append]
    exact List.mem_append_left _ reported
  · right
    cases here : first.courier with
    | pooled courierId => simpa [here] using again
    | synthetic region processed =>
        simp only [here] at again
        exact collect_append_ne_nil again events

theorem Genuine.ne_synthetic {courierId : String} (genuine : Genuine courierId)
    {region : String} {processed : Nat} :
    (Courier.pooled courierId).id ≠ (Courier.synthetic region processed).id :=
  genuine region processed

/-- The made-up ids of a region are numbered. -/
theorem synthetic_id_injective {region : String} {first second : Nat}
    (same : (Courier.synthetic region first).id = (Courier.synthetic region second).id) :
    first = second := by
  apply toString_nat_injective
  simpa [Courier.id] using same

theorem GenuineReports.of_append (genuine : GenuineReports start (trace ++ events)) :
    GenuineReports start trace := by
  intro courierId mem
  apply genuine courierId
  rw [couriersAvailable, collect_append, ← List.append_assoc]
  exact List.mem_append_left _ mem

/-- The couriers of the pool have reported, or were there at the start. -/
theorem CouriersFed.genuine (fed : CouriersFed start trace pc self)
    (genuine : GenuineReports start trace) {courierId : String}
    (held : courierId ∈ heldCouriers pc self) : Genuine courierId :=
  genuine courierId (fed.subset (List.mem_append_right _ held))

/-- A handler can only bring a courier back into the pool by a report of it. -/
theorem Away.handled (holds : Away pc self first after) (signal : Signal) :
    Away pc (self.handle signal) first (after ++ [.handled pc self signal]) := by
  rcases holds with again | unavailable
  · exact Or.inl (again.append _)
  · cases here : first.courier with
    | synthetic region processed =>
        rw [here] at unavailable
        refine Or.inr ?_
        rw [here]
        cases pc <;> cases signal <;> exact unavailable
    | pooled courierId =>
        rw [here] at unavailable
        obtain ⟨genuine, absent⟩ := unavailable
        cases signal with
        | orderReady _ | setDegradation _ =>
            refine Or.inr ?_
            rw [here]
            exact ⟨genuine, by cases pc <;> exact absent⟩
        | courierAvailable avail =>
            by_cases same : courierId = avail.courierId
            · refine Or.inl (Or.inl ?_)
              simp [couriersAvailable, reportedCourier, here, Courier.id, same]
            · refine Or.inr ?_
              rw [here]
              refine ⟨genuine, ?_⟩
              cases pc <;> simpa [DispatchWorkflow.handle, same] using absent

/-- A courier which is unavailable stays so while the coroutine goes on. -/
theorem Unavailable.proceeds {courier : Courier} (holds : Unavailable courier pc self)
    (stepped : Proceeds history pc self next self' commands) :
    Unavailable courier next self' := by
  cases courier with
  | pooled courierId =>
      refine ⟨holds.1, ?_⟩
      have absent := holds.2
      cases stepped with
      | assigns _ pool =>
          simp only [heldCouriers, pool] at absent
          exact fun held => absent (List.mem_cons_of_mem _ held)
      | synthesises _ _ => exact List.not_mem_nil
      | _ => exact absent
  | synthetic region processed =>
      obtain ⟨same, below⟩ := holds
      cases stepped with
      | assigns _ _ | synthesises _ _ => exact ⟨same, Nat.lt_succ_of_lt below⟩
      | _ => exact ⟨same, below⟩

theorem Unavailable.resumes {courier : Courier} (holds : Unavailable courier pc self)
    (resumed : Resumes pc next) : Unavailable courier next self := by
  cases courier <;> cases resumed <;> exact holds

/-- The pool is carried on without new couriers, and the numbers start again. -/
theorem Away.continues (holds : Away .checkContinue self first after) {command : Command} :
    Away (.entry self.carry) {} first
      (after ++ [.issued command, .continuedAsNew self.carry]) := by
  rcases holds with again | unavailable
  · exact Or.inl (again.append _)
  · cases here : first.courier with
    | synthetic region processed =>
        refine Or.inl (Or.inr ?_)
        simp [here, successors, successor]
    | pooled courierId =>
        rw [here] at unavailable
        refine Or.inr ?_
        rw [here]
        exact ⟨unavailable.1, fun held => unavailable.2 (List.mem_of_mem_drop held)⟩

/-- The courier taken for an order was not unavailable. -/
theorem Away.apart (holds : Away .drain self first after)
    (fed : CouriersFed start trace .drain self) (genuine : GenuineReports start trace)
    (taken : second.courier = self.takeCourier.1) : BookedApart first after second := by
  intro same
  rcases holds with again | unavailable
  · exact again
  · rw [taken, DispatchWorkflow.takeCourier] at same
    cases pool : self.couriers with
    | cons courier couriers =>
        have held : courier ∈ heldCouriers .drain self := by simp [pool]
        have real := fed.genuine genuine held
        rw [pool] at same
        cases here : first.courier with
        | pooled courierId =>
            rw [here] at same unavailable
            obtain rfl : courierId = courier := same
            exact absurd held unavailable.2
        | synthetic region processed =>
            rw [here] at same
            exact absurd same.symm real.ne_synthetic
    | nil =>
        rw [pool] at same
        cases here : first.courier with
        | pooled courierId =>
            rw [here] at same unavailable
            exact absurd same unavailable.1.ne_synthetic
        | synthetic region processed =>
            rw [here] at same unavailable
            obtain ⟨rfl, below⟩ := unavailable
            obtain rfl := synthetic_id_injective same
            exact absurd below (Nat.lt_irrefl _)

theorem Booked.extend (holds : Booked trace pc self)
    (keeps : ∀ first after, Away pc self first after → Away next self' first (after ++ events))
    (quiet : collect assignment events = []) : Booked (trace ++ events) next self' :=
  ⟨holds.away.append keeps (.of_nil quiet), holds.apart.append_of_nil quiet⟩

/-- A new booking is compared with those before it, which stay away. -/
theorem Booked.assigns (holds : Booked trace .drain self)
    (fed : CouriersFed start trace .drain self) (genuine : GenuineReports start trace)
    (taken : second.courier = self.takeCourier.1)
    (keeps : ∀ first after, Away .drain self first after →
      Away next self' first (after ++ [.issued (.assignCourier second)]))
    (fresh : Away next self' second []) :
    Booked (trace ++ [.issued (.assignCourier second)]) next self' := by
  constructor
  · exact holds.away.append keeps (.singleton rfl fresh)
  · refine holds.apart.append_singleton ?_
    intro later seen
    cases seen
    intro before event after first split seen
    exact (holds.away split seen).apart fed genuine taken

/-- Each booking makes its courier unavailable, unless it stood in the pool twice. -/
theorem Booked.proceeds (holds : Booked trace pc self) (fed : CouriersFed start trace pc self)
    (genuine : GenuineReports start trace)
    (stepped : Proceeds history pc self next self' commands) :
    Booked (trace ++ commands.map .issued) next self' := by
  have keeps : ∀ first after, Away pc self first after →
      Away next self' first (after ++ commands.map .issued) := by
    rintro first after (again | unavailable)
    · exact Or.inl (again.append _)
    · exact Or.inr (unavailable.proceeds stepped)
  cases stepped with
  | @assigns order rest courier couriers _ head pool =>
      have taken : (Courier.pooled courier) = self.takeCourier.1 := by
        rw [DispatchWorkflow.takeCourier, pool]
      have real : Genuine courier := fed.genuine genuine (by simp [pool])
      refine holds.assigns fed genuine taken keeps ?_
      by_cases again : courier ∈ couriers
      · refine Or.inl (Or.inr ?_)
        simpa using again
      · exact Or.inr ⟨real, again⟩
  | synthesises head pool =>
      have taken : Courier.synthetic self.region self.processed = self.takeCourier.1 := by
        rw [DispatchWorkflow.takeCourier, pool]
      exact holds.assigns fed genuine taken keeps (Or.inr ⟨rfl, Nat.lt_succ_self _⟩)
  | _ => exact holds.extend keeps rfl

/-- The bookings along every chain to which no courier reports by a made-up id. -/
def couriersBooked (start : DispatchState) : dispatchWorkflow.Invariant start where
  Idle trace pc self history := (couriersFed start).Idle trace pc self history ∧
    (GenuineReports start trace → Booked trace pc self)
  Busy trace pc self history := (couriersFed start).Busy trace pc self history ∧
    (GenuineReports start trace → Booked trace pc self)
  initial := ⟨(couriersFed start).initial, fun _ => ⟨.nil, .nil⟩⟩
  handled signal holds := by
    refine ⟨(couriersFed start).handled signal holds.1, fun genuine => ?_⟩
    exact (holds.2 genuine.of_append).extend (fun _ _ away => away.handled signal) rfl
  advanced holds later := by
    refine ⟨(couriersFed start).advanced holds.1 later, fun genuine => ?_⟩
    refine (holds.2 genuine.of_append).extend ?_ rfl
    rintro first after (again | unavailable)
    · exact Or.inl (again.append _)
    · exact Or.inr unavailable
  resolved holds later resumed := by
    refine ⟨(couriersFed start).resolved holds.1 later resumed, fun genuine => ?_⟩
    rw [List.append_assoc] at genuine ⊢
    refine (holds.2 genuine.of_append).extend ?_ rfl
    rintro first after (again | unavailable)
    · exact Or.inl (again.append _)
    · exact Or.inr (unavailable.resumes (resumes_of_resume resumed))
  proceeds holds stepped := by
    refine ⟨(couriersFed start).proceeds holds.1 stepped, fun genuine => ?_⟩
    exact (holds.2 genuine.of_append).proceeds holds.1.1 genuine.of_append
      (proceeds_of_step stepped)
  suspends holds _ := holds
  continues holds stepped := by
    refine ⟨(couriersFed start).continues holds.1 stepped, fun genuine => ?_⟩
    obtain ⟨rfl, _, rfl, rfl⟩ := continues_of_step stepped
    exact (holds.2 genuine.of_append).extend (fun _ _ away => away.continues) rfl

end Steps

/-- Over every chain to which no courier reports by a made-up id, a courier is
booked again only after it has reported, unless it stood in the pool twice when
it was booked, or it is made up and a new run has begun; and a real courier is
booked no more often than it has reported. -/
theorem courier_booked_apart {start : DispatchState} {trace : List Event} {pc : Pc}
    {self : DispatchWorkflow} {history : Nat}
    (chain : dispatchWorkflow.Chain start trace (.running pc self history))
    (genuine : GenuineReports start trace) :
    Spaced assignment BookedApart trace ∧
      ∀ courierId, (pooledCouriers trace).count courierId ≤
        (start.availableCouriers ++ couriersAvailable trace).count courierId := by
  obtain ⟨fed, booked⟩ := (couriersBooked start).of_running chain
  exact ⟨(booked genuine).apart, fun courierId => fed.1.consumed_sublist.count_le courierId⟩

/-- Made-up ids are longer than ten characters. -/
theorem genuine_of_short {courierId : String} (short : courierId.length ≤ 10) :
    Genuine courierId := by
  rintro region processed rfl
  have start : (toString "synthetic-").length = 10 := rfl
  have dash : (toString "-").length = 1 := rfl
  simp [Courier.id] at short
  omega

/-- One courier, booked again after it has reported again. -/
theorem courier_booked_apart_of_two :
    ∃ trace self, dispatchWorkflow.Chain { region := "us-west" } trace
        (.running (.awaitAssign ⟨"o2", "order-o2"⟩ (.pooled "c1")) self 19) ∧
      pooledCouriers trace = ["c1", "c1"] ∧ Spaced assignment BookedApart trace := by
  have chain := Workflow.Chain.of_replay dispatchWorkflow 10 { region := "us-west" }
    [⟨[], none, 3⟩,
     ⟨[.courierAvailable ⟨"c1", "us-west"⟩, .orderReady ⟨"o1", "order-o1", "us-west"⟩,
       .orderReady ⟨"o2", "order-o2", "us-west"⟩], none, 8⟩,
     ⟨[.courierAvailable ⟨"c1", "us-west"⟩], some .activityCompleted, 14⟩,
     ⟨[], some .signalSent, 19⟩] rfl
  refine ⟨_, _, chain, rfl, (courier_booked_apart chain ?_).1⟩
  have reported : ∀ courierId ∈ ["c1", "c1"], courierId.length ≤ 10 := by decide
  exact fun courierId mem => genuine_of_short (reported courierId mem)

/-- The courier of two bookings has reported in between. -/
def ReportedBetween (first : Assignment) (between : List Event) (second : Assignment) : Prop :=
  first.courier.id = second.courier.id → first.courier.id ∈ couriersAvailable between

/-- A courier which reports twice is booked twice, and so is the first made-up
id of a region once it has continued as new. -/
theorem courier_booked_twice :
    (∃ trace self, dispatchWorkflow.Chain { region := "us-west" } trace
        (.running (.awaitAssign ⟨"o2", "order-o2"⟩ (.pooled "c1")) self 19) ∧
      GenuineReports { region := "us-west" } trace ∧
      ¬ Spaced assignment ReportedBetween trace) ∧
    ∃ trace self, dispatchWorkflow.Chain { region := "us-west" } trace
        (.running (.awaitAssign ⟨"o2", "order-o2"⟩ (.synthetic "us-west" 0)) self 8) ∧
      GenuineReports { region := "us-west" } trace ∧
      ¬ Spaced assignment ReportedBetween trace := by
  constructor
  · have chain := Workflow.Chain.of_replay dispatchWorkflow 10 { region := "us-west" }
      [⟨[], none, 3⟩,
       ⟨[.courierAvailable ⟨"c1", "us-west"⟩, .courierAvailable ⟨"c1", "us-west"⟩,
         .orderReady ⟨"o1", "order-o1", "us-west"⟩,
         .orderReady ⟨"o2", "order-o2", "us-west"⟩], none, 8⟩,
       ⟨[], some .activityCompleted, 14⟩, ⟨[], some .signalSent, 19⟩] rfl
    refine ⟨_, _, chain, ?_, ?_⟩
    · have short : ∀ courierId ∈ ["c1", "c1"], courierId.length ≤ 10 := by decide
      exact fun courierId mem => genuine_of_short (short courierId mem)
    · intro spaced
      have reported := spaced.of_cut 6 5 rfl rfl rfl rfl rfl
      exact absurd reported (by decide)
  · have chain := Workflow.Chain.of_replay dispatchWorkflow 10 { region := "us-west" }
      [⟨[], none, 3⟩, ⟨[.orderReady ⟨"o1", "order-o1", "us-west"⟩], none, 8⟩,
       ⟨[], some .activityCompleted, 14⟩, ⟨[], some .signalSent, 1501⟩, ⟨[], none, 3⟩,
       ⟨[.orderReady ⟨"o2", "order-o2", "us-west"⟩], none, 8⟩] rfl
    refine ⟨_, _, chain, ?_, ?_⟩
    · intro courierId mem
      exact absurd mem List.not_mem_nil
    · intro spaced
      have reported := spaced.of_cut 3 10 rfl rfl rfl rfl rfl
      exact absurd reported (by decide)

end WardenDemo.Dispatch
