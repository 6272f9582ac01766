import WardenDemo.Courier.EndShift
import WardenDemo.Durable.Queue

/-!
# Conservation of assignments

A run continues as new right after its drain, with no await in between, so the
queue which the carried state leaves out is empty there. The assignments of a
whole chain are therefore accepted, in hand, or queued, in the order handled.
-/

namespace WardenDemo.Courier

open Durable

def assignedOrder : Event → Option String
  | .handled _ _ (.assignment orderId) => some orderId
  | _ => none

/-- The `assignment` signals of a trace, in the order handled. -/
def assigned (trace : List Event) : List String := collect assignedOrder trace

def acceptedOrder : Event → Option String
  | .resolved (.awaitAccept orderId) .activityCompleted => some orderId
  | _ => none

/-- The `accept_assignment` calls completed in a trace. -/
def accepted (trace : List Event) : List String := collect acceptedOrder trace

def report : Event → Option CourierAvailable
  | .issued (.signalCourierAvailable _ avail) => some avail
  | _ => none

/-- The `courier_available` signals attempted in a trace. -/
def reports (trace : List Event) : List CourierAvailable := collect report trace

/-- The assignment being accepted. -/
def inHand : Pc → List String
  | .awaitAccept orderId => [orderId]
  | _ => []

/-- `_count`, or before the first statement of `run` the count carried to it. -/
def heldCount : Pc → CourierShiftWorkflow → Nat
  | .entry state, _ => state.assignments
  | _, self => self.count

/-- The acceptances completed but not yet counted and reported. -/
def unreported : Pc → Nat
  | .accepted => 1
  | _ => 0

/-- The handled assignments are accepted, in hand, or queued, in the order handled. -/
abbrev Accounted (trace : List Event) (pc : Pc) (shift : CourierShiftWorkflow) : Prop :=
  Accounts (assigned trace) (accepted trace ++ inHand pc) shift.assignments

/-- The handled assignments are accepted, in hand, or queued, and those accepted
are counted and reported. -/
structure Conserved (trace : List Event) (pc : Pc) (shift : CourierShiftWorkflow) : Prop where
  accounts : Accounts (assigned trace) (accepted trace ++ inHand pc) shift.assignments
  counted : heldCount pc shift + unreported pc = (accepted trace).length
  reported : (reports trace).length + unreported pc = (accepted trace).length

/-- The drain has left nothing where the history is tested. -/
def DrainedAt (pc : Pc) (self : CourierShiftWorkflow) : Prop :=
  pc = .checkHistory → self.assignments = []

section Steps

attribute [local simp] assigned assignedOrder accepted acceptedOrder reports report inHand
  heldCount unreported

variable {trace : List Event} {pc next : Pc} {self self' : CourierShiftWorkflow}
  {history : Nat} {commands : List Command}

theorem Accounted.handled (holds : Accounted trace pc self) (signal : Signal) :
    Accounted (trace ++ [.handled pc self signal]) pc (self.handle signal) := by
  unfold Accounted at holds ⊢
  cases signal with
  | assignment orderId => simpa [CourierShiftWorkflow.handle] using holds.push orderId
  | locationPing | endShift => simpa [CourierShiftWorkflow.handle] using holds

theorem Accounted.advanced (holds : Accounted trace pc self) :
    Accounted (trace ++ [.advanced pc self history]) pc self := by
  unfold Accounted at holds ⊢
  simpa using holds

/-- A completed acceptance is no longer in hand. -/
theorem Accounted.resumed (holds : Accounted trace pc self) {resolution : Resolution}
    (resumed : CourierShiftWorkflow.resume resolution pc self = some next) :
    Accounted (trace ++ [.resolved pc resolution]) next self := by
  unfold Accounted at holds ⊢
  unfold CourierShiftWorkflow.resume at resumed
  split at resumed <;> cases resumed
  all_goals simpa using holds

theorem Accounted.proceeds (holds : Accounted trace pc self)
    (stepped : Proceeds history pc self next self' commands) :
    Accounted (trace ++ commands.map .issued) next self' := by
  unfold Accounted at holds ⊢
  cases stepped with
  | accepts head =>
      rw [head] at holds
      simpa using holds.pop
  | _ => simpa [CourierShiftWorkflow.initialise] using holds

theorem Conserved.handled (holds : Conserved trace pc self) (signal : Signal) :
    Conserved (trace ++ [.handled pc self signal]) pc (self.handle signal) := by
  obtain ⟨accounts, counted, reported⟩ := holds
  have same : heldCount pc (self.handle signal) = heldCount pc self := by
    cases signal <;> cases pc <;> rfl
  refine ⟨Accounted.handled accounts signal, ?_, by simpa using reported⟩
  rw [same]
  simpa using counted

theorem Conserved.advanced (holds : Conserved trace pc self) :
    Conserved (trace ++ [.advanced pc self history]) pc self :=
  ⟨Accounted.advanced holds.accounts, by simpa using holds.counted, by simpa using holds.reported⟩

/-- A completed acceptance is no longer in hand, and is due to be reported. -/
theorem Conserved.resumed (holds : Conserved trace pc self) {resolution : Resolution}
    (resumed : CourierShiftWorkflow.resume resolution pc self = some next) :
    Conserved (trace ++ [.resolved pc resolution]) next self := by
  obtain ⟨accounts, counted, reported⟩ := holds
  have kept := Accounted.resumed accounts resumed
  unfold CourierShiftWorkflow.resume at resumed
  split at resumed <;> cases resumed
  all_goals
    refine ⟨kept, ?_, ?_⟩
    · simpa using counted
    · simpa using reported

theorem Conserved.proceeds (holds : Conserved trace pc self)
    (stepped : Proceeds history pc self next self' commands) :
    Conserved (trace ++ commands.map .issued) next self' := by
  obtain ⟨accounts, counted, reported⟩ := holds
  refine ⟨Accounted.proceeds accounts stepped, ?_, ?_⟩
  · cases stepped <;> simpa [CourierShiftWorkflow.initialise] using counted
  · cases stepped <;> simpa using reported

theorem DrainedAt.of_proceeds (stepped : Proceeds history pc self next self' commands) :
    DrainedAt next self' := by
  intro atEnd
  cases stepped with
  | drained empty => exact empty
  | _ => cases atEnd

theorem DrainedAt.of_resumes (resumed : Resumes pc next) : DrainedAt next self := by
  intro atEnd
  cases resumed <;> cases atEnd

theorem DrainedAt.of_resting (resting : Resting pc) : DrainedAt pc self := by
  rintro rfl
  exact resting.elim

/-- A run which continues as new with its assignments accepted hands over its count. -/
theorem Conserved.continues (holds : Conserved trace .checkHistory self)
    (empty : self.assignments = []) {command : Command} (misses : report (.issued command) = none) :
    Conserved (trace ++ [.issued command, .continuedAsNew self.carry]) (.entry self.carry) {} := by
  obtain ⟨accounts, counted, reported⟩ := holds
  rw [empty] at accounts
  constructor
  · simpa using accounts
  · simpa [CourierShiftWorkflow.carry] using counted
  · simp only [report] at misses
    simpa [misses] using reported

/-- Assignments are conserved along every chain from a shift with none accepted. -/
def assignmentsConserved (start : CourierState) (fresh : start.assignments = 0) :
    courierWorkflow.Invariant start where
  Idle trace pc self _ := Resting pc ∧ Conserved trace pc self
  Busy trace pc self _ := DrainedAt pc self ∧ Conserved trace pc self
  initial := ⟨trivial, rfl, fresh, rfl⟩
  handled signal holds := ⟨holds.1, holds.2.handled signal⟩
  advanced holds _ := ⟨.of_resting holds.1, holds.2.advanced⟩
  resolved holds _ resumed :=
    ⟨.of_resumes (resumes_of_resume resumed), (holds.2.resumed resumed).advanced⟩
  proceeds holds stepped :=
    ⟨.of_proceeds (proceeds_of_step stepped), holds.2.proceeds (proceeds_of_step stepped)⟩
  suspends holds suspended := by
    refine ⟨?_, holds.2⟩
    rcases suspends_of_step suspended with ⟨rfl, _⟩ | ⟨_, rfl⟩ | rfl
    all_goals trivial
  continues holds stepped := by
    obtain ⟨rfl, _, rfl, rfl⟩ := continues_of_step stepped
    exact ⟨trivial, holds.2.continues (holds.1 rfl) rfl⟩

end Steps

/-- The accounting at the end of an activation; a shift which returns leaves its
queue behind. -/
def AssignmentsConserved (trace : List Event) : Config → Prop
  | .running pc self _ =>
      assigned trace = accepted trace ++ inHand pc ++ self.assignments ∧
        heldCount pc self = (accepted trace).length ∧
        (reports trace).length = (accepted trace).length
  | .completed result =>
      ∃ self : CourierShiftWorkflow,
        result = CourierShiftWorkflow.shiftEnded self.courierId self.count ∧
        assigned trace = accepted trace ++ self.assignments ∧
        self.count = (accepted trace).length ∧
        (reports trace).length = (accepted trace).length
  | .failed => False

/-- Along every chain from a shift with no acceptances, the handled assignments
are those accepted, the one in hand, and those queued; each acceptance has been
counted and reported once; and a run continues as new with nothing queued. -/
theorem assignments_conserved {start : CourierState} (fresh : start.assignments = 0) :
    (∀ {trace config}, courierWorkflow.Chain start trace config →
      AssignmentsConserved trace config) ∧
    ∀ {trace pc self history state commands},
      courierWorkflow.Visits start trace pc self history →
      CourierShiftWorkflow.step history pc self = .continueAsNew state commands →
      self.assignments = [] := by
  constructor
  · intro trace config chain
    cases config with
    | running pc self history =>
        obtain ⟨resting, accounts, counted, reported⟩ :=
          (assignmentsConserved start fresh).of_running chain
        have settled : unreported pc = 0 := by
          cases pc with
          | accepted => exact resting.elim
          | _ => rfl
        rw [settled, Nat.add_zero] at counted reported
        exact ⟨accounts, counted, reported⟩
    | completed result =>
        obtain ⟨before, pc, self, history, rfl, holds, stepped⟩ :=
          (assignmentsConserved start fresh).of_completed chain
        obtain ⟨rfl, _, returned⟩ := completes_of_step stepped
        obtain ⟨_, accounts, counted, reported⟩ := holds
        refine ⟨self, returned, ?_, ?_, ?_⟩
        · simpa [Accounts, assigned, assignedOrder, accepted, acceptedOrder, inHand]
            using accounts
        · simpa [heldCount, unreported, accepted, acceptedOrder] using counted
        · simpa [reports, report, unreported, accepted, acceptedOrder] using reported
    | failed =>
        obtain ⟨_, _, _, _, _, _, stepped⟩ := (assignmentsConserved start fresh).of_chain chain
        exact absurd stepped not_fails
  · intro trace pc self history state commands visited stepped
    obtain ⟨drained, _⟩ := (assignmentsConserved start fresh).of_visits visited
    exact drained (continues_of_step stepped).1

/-- Two assignments are handled before `run` begins, and a third one while the
first is being accepted. -/
theorem assignments_conserved_of_three :
    (∃ trace self, courierWorkflow.Chain { courierId := "7-ab", region := "us-west" } trace
        (.running (.awaitAccept "o2") self 13) ∧
      assigned trace = ["o1"] ++ ["o2"] ++ ["o3"] ∧
      AssignmentsConserved trace (.running (.awaitAccept "o2") self 13)) ∧
    ∃ trace self state commands, courierWorkflow.Visits
        { courierId := "7-ab", region := "us-west" } trace .checkHistory self 1501 ∧
      CourierShiftWorkflow.step 1501 .checkHistory self = .continueAsNew state commands ∧
      self.assignments = [] := by
  constructor
  · have chain := Workflow.Chain.of_replay courierWorkflow 10
      { courierId := "7-ab", region := "us-west" }
      [⟨[.assignment "o1", .assignment "o2"], none, 3⟩,
        ⟨[.assignment "o3"], some .activityCompleted, 9⟩, ⟨[], some .signalSent, 13⟩] rfl
    exact ⟨_, _, chain, rfl, (assignments_conserved rfl).1 chain⟩
  · have fresh : courierWorkflow.Chain { courierId := "7-ab", region := "us-west" } []
        (.running (.entry { courierId := "7-ab", region := "us-west" }) {} 0) := .start
    have woken := Workflow.Visits.wake ⟨[], none, 1501⟩ fresh (by decide) rfl
    have drained := (((woken.proceed rfl).proceed rfl).proceed rfl).proceed rfl
    exact ⟨_, _, _, _, drained, rfl, (assignments_conserved rfl).2 drained rfl⟩

end WardenDemo.Courier
