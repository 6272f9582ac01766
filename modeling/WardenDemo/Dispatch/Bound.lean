import WardenDemo.Dispatch.Conservation
import WardenDemo.Durable.FirstRun

/-!
# The quota of one run

The continue-as-new test is made after the drain, and the drain goes on while
orders are pending. One run therefore stays within `maxProcessed` orders exactly
when nothing is pending at the moment its last order in quota is done.
-/

namespace WardenDemo.Dispatch

open Durable

/-- The degradation of a handled `set_degradation` which suspends continue-as-new. -/
def suspension : Event → Option Degradation
  | .handled _ _ (.setDegradation degr) => if degr.suspendCan then some degr else none
  | _ => none

def suspensions (trace : List Event) : List Degradation := collect suspension trace

/-- The orders still pending when an order is done that uses up the quota. -/
def quotaOverflow : Event → Option (List PendingOrder)
  | .advanced .assigned self _ =>
      if maxProcessed ≤ self.processed + 1 ∧ self.pending ≠ [] then some self.pending else none
  | _ => none

def overflows (trace : List Event) : List (List PendingOrder) := collect quotaOverflow trace

/-- The orders assigned but not yet counted in `_processed`. -/
def inFlight : Pc → Nat
  | .awaitAssign _ _ | .reply _ _ | .awaitReply | .assigned => 1
  | _ => 0

/-- `_processed` counts the assigned orders of a run which may continue as new. -/
def Counted (trace : List Event) : Pc → DispatchWorkflow → Prop
  | .entry state, _ => assignments trace = [] ∧ state.processed = 0 ∧
      (state.degradation.getD {}).suspendCan = false
  | pc, self => (assignments trace).length = self.processed + inFlight pc ∧
      self.degr.suspendCan = false

/-- A run within its quota. No activation finds a run in the middle of a drain. -/
def WithinIdle : Pc → DispatchWorkflow → Prop
  | .entry _, _ => True
  | .drain, _ | .assigned, _ => False
  | _, self => self.processed < maxProcessed

def WithinBusy : Pc → DispatchWorkflow → Prop
  | .entry _, _ => True
  | .assigned, self => self.processed < maxProcessed ∧
      (self.processed + 1 < maxProcessed ∨ self.pending = [])
  | .drain, self => self.processed ≤ maxProcessed ∧
      (self.processed < maxProcessed ∨ self.pending = [])
  | .checkContinue, self => self.processed ≤ maxProcessed
  | _, self => self.processed < maxProcessed

/-- A run whose drain is about to assign an order beyond the quota. -/
def Exceeds : Pc → DispatchWorkflow → Prop
  | .assigned, self => maxProcessed ≤ self.processed + 1 ∧ self.pending ≠ []
  | .drain, self => maxProcessed ≤ self.processed ∧ self.pending ≠ []
  | _, _ => False

/-- Either nothing has overflowed and the run is within its quota, or something
has and the run is beyond it. -/
def QuotaIdle (trace : List Event) (pc : Pc) (self : DispatchWorkflow) : Prop :=
  Counted trace pc self ∧
    ((overflows trace = [] ∧ WithinIdle pc self) ∨
      (overflows trace ≠ [] ∧ maxProcessed < (assignments trace).length))

def QuotaBusy (trace : List Event) (pc : Pc) (self : DispatchWorkflow) : Prop :=
  Counted trace pc self ∧
    ((overflows trace = [] ∧ WithinBusy pc self) ∨
      (overflows trace ≠ [] ∧
        (maxProcessed < (assignments trace).length ∨ Exceeds pc self)))

section Steps

attribute [local simp] assignments assignment overflows quotaOverflow suspensions suspension
  successors successor

variable {trace : List Event} {pc next : Pc} {self self' : DispatchWorkflow} {history : Nat}
  {commands : List Command}

theorem unsuspended_handled (holds : self.degr.suspendCan = false) {signal : Signal}
    (unsuspended : suspensions [.handled pc self signal] = []) :
    (self.handle signal).degr.suspendCan = false := by
  cases signal with
  | setDegradation degr =>
      have off : degr.suspendCan = false := by simpa using unsuspended
      exact off
  | orderReady _ | courierAvailable _ => exact holds

/-- Handlers assign nothing, count nothing and, by assumption, suspend nothing. -/
theorem QuotaIdle.handled (holds : QuotaIdle trace pc self) (signal : Signal)
    (unsuspended : suspensions [.handled pc self signal] = []) :
    QuotaIdle (trace ++ [.handled pc self signal]) pc (self.handle signal) := by
  obtain ⟨counted, quota⟩ := holds
  constructor
  · cases pc with
    | entry state => simpa [Counted] using counted
    | _ =>
        exact ⟨by simpa [Counted] using counted.1, unsuspended_handled counted.2 unsuspended⟩
  · rcases quota with ⟨none, within⟩ | ⟨some, beyond⟩
    · refine Or.inl ⟨by simpa using none, ?_⟩
      cases pc <;> cases signal <;> exact within
    · exact Or.inr ⟨by simpa using some, by simpa using beyond⟩

/-- An activation which runs the coroutine from where it was suspended. -/
theorem QuotaIdle.advanced (holds : QuotaIdle trace pc self) :
    QuotaBusy (trace ++ [.advanced pc self history]) pc self := by
  obtain ⟨counted, quota⟩ := holds
  refine ⟨by cases pc <;> simpa [Counted] using counted, ?_⟩
  rcases quota with ⟨none, within⟩ | ⟨some, beyond⟩
  · left
    cases pc with
    | assigned | drain => exact absurd within id
    | checkContinue => exact ⟨by simpa using none, Nat.le_of_lt within⟩
    | _ => exact ⟨by simpa using none, within⟩
  · exact Or.inr ⟨collect_append_ne_nil some _, Or.inl (by simpa using beyond)⟩

/-- Resolving an await keeps the count. The event of an order done with the
quota used up and others pending is the overflow. -/
theorem QuotaIdle.resumed (holds : QuotaIdle trace pc self) {resolution : Resolution}
    (resumed : Resumes pc next) :
    QuotaBusy (trace ++ [.resolved pc resolution] ++ [.advanced next self history])
      next self := by
  obtain ⟨counted, quota⟩ := holds
  refine ⟨by cases resumed <;> simpa [Counted, inFlight] using counted, ?_⟩
  rcases quota with ⟨none, within⟩ | ⟨some, beyond⟩
  · cases resumed with
    | replied =>
        by_cases overflow : maxProcessed ≤ self.processed + 1 ∧ self.pending ≠ []
        · exact Or.inr ⟨by simp [overflow], Or.inr overflow⟩
        · refine Or.inl ⟨by simpa [overflow] using none, within, ?_⟩
          rcases Nat.lt_or_ge (self.processed + 1) maxProcessed with below | reached
          · exact Or.inl below
          · exact Or.inr (Classical.not_not.mp fun pending => overflow ⟨reached, pending⟩)
    | _ => exact Or.inl ⟨by simpa using none, within⟩
  · rw [List.append_assoc]
    exact Or.inr ⟨collect_append_ne_nil some _, Or.inl (by simpa using beyond)⟩

/-- A program point keeps the count: an order is in flight once it is assigned,
and counted once it is done. -/
theorem Counted.proceeds (holds : Counted trace pc self)
    (stepped : Proceeds history pc self next self' commands) :
    Counted (trace ++ commands.map .issued) next self' := by
  cases stepped with
  | entry =>
      obtain ⟨none, zero, unsuspended⟩ := holds
      have empty : collect assignment trace = [] := none
      simp [Counted, DispatchWorkflow.initialise, inFlight, zero, unsuspended, empty]
  | counts | assigns _ _ | synthesises _ _ =>
      obtain ⟨count, unsuspended⟩ := holds
      simp only [inFlight] at count
      exact ⟨by simpa [inFlight] using count, unsuspended⟩
  | _ => simpa [Counted, inFlight] using holds

theorem WithinBusy.proceeds (holds : WithinBusy pc self) (counted : Counted trace pc self)
    (stepped : Proceeds history pc self next self' commands) : WithinBusy next self' := by
  cases stepped with
  | entry =>
      have zero : (self.initialise _).processed = 0 := counted.2.1
      simp [WithinBusy, zero, maxProcessed]
  | stays due =>
      -- The run could continue as new and does not, so its quota is not used up.
      simp only [DispatchWorkflow.continueDue, counted.2, Bool.not_false, Bool.true_and,
        Bool.or_eq_false_iff, decide_eq_false_iff_not, Nat.not_le] at due
      exact due.1
  | unchanged _ | publishes _ => exact ⟨Nat.le_of_lt holds, Or.inl holds⟩
  | counts => exact ⟨holds.1, holds.2⟩
  | drained _ => exact holds.1
  | assigns head _ | synthesises head _ =>
      rcases holds.2 with below | empty
      · exact below
      · rw [head] at empty
        cases empty
  | _ => exact holds

theorem QuotaBusy.proceeds (holds : QuotaBusy trace pc self)
    (stepped : Proceeds history pc self next self' commands) :
    QuotaBusy (trace ++ commands.map .issued) next self' := by
  obtain ⟨counted, quota⟩ := holds
  have same : overflows (trace ++ commands.map .issued) = overflows trace := by
    cases stepped <;> simp
  have more : (assignments trace).length ≤
      (assignments (trace ++ commands.map .issued)).length := by
    simp
  refine ⟨counted.proceeds stepped, ?_⟩
  rw [same]
  rcases quota with ⟨none, within⟩ | ⟨some, beyond | exceeds⟩
  · exact Or.inl ⟨none, within.proceeds counted stepped⟩
  · exact Or.inr ⟨some, Or.inl (Nat.lt_of_lt_of_le beyond more)⟩
  · refine Or.inr ⟨some, ?_⟩
    cases stepped with
    | counts => exact Or.inr exceeds
    | drained empty => exact absurd empty exceeds.2
    | assigns _ _ | synthesises _ _ =>
        have count := counted.1
        have reached := exceeds.1
        simp only [inFlight] at count
        left
        rw [List.map_singleton, assignments_assigned, List.length_append, List.length_singleton]
        omega
    | _ => exact absurd exceeds id

theorem QuotaBusy.suspends (holds : QuotaBusy trace pc self)
    (suspended : DispatchWorkflow.step history pc self = .suspend) :
    QuotaIdle trace pc self := by
  obtain ⟨counted, quota⟩ := holds
  refine ⟨counted, ?_⟩
  rcases quota with ⟨none, within⟩ | ⟨some, beyond | exceeds⟩
  · refine Or.inl ⟨none, ?_⟩
    rcases suspends_of_step suspended with
      ⟨_, rfl⟩ | rfl | ⟨rfl, _⟩ | ⟨_, _, rfl⟩ | rfl <;> exact within
  · exact Or.inr ⟨some, beyond⟩
  · rcases suspends_of_step suspended with
      ⟨_, rfl⟩ | rfl | ⟨rfl, _⟩ | ⟨_, _, rfl⟩ | rfl <;> exact absurd exceeds id

/-- What the quota settles of a run: the bound holds unless something overflowed. -/
def QuotaSettled (trace : List Event) : Prop :=
  (assignments trace).length ≤ maxProcessed ↔ overflows trace = []

theorem QuotaSettled.of_overflow (some : overflows trace ≠ [])
    (beyond : maxProcessed < (assignments trace).length) : QuotaSettled trace :=
  ⟨fun bounded => absurd bounded (Nat.not_le_of_lt beyond), fun none => absurd none some⟩

theorem QuotaIdle.settled (holds : QuotaIdle trace pc self) : QuotaSettled trace := by
  obtain ⟨counted, ⟨none, within⟩ | ⟨some, beyond⟩⟩ := holds
  · refine ⟨fun _ => none, fun _ => ?_⟩
    cases pc with
    | entry state =>
        rw [counted.1]
        exact Nat.zero_le _
    | drain | assigned => exact absurd within id
    | _ =>
        have count := counted.1
        simp only [WithinIdle, inFlight] at within count
        omega
  · exact .of_overflow some beyond

/-- A run which continues as new has no order in flight. -/
theorem QuotaBusy.settled (holds : QuotaBusy trace .checkContinue self) :
    QuotaSettled trace := by
  obtain ⟨counted, ⟨none, within⟩ | ⟨some, beyond | exceeds⟩⟩ := holds
  · refine ⟨fun _ => none, fun _ => ?_⟩
    rw [counted.1]
    exact within
  · exact .of_overflow some beyond
  · exact absurd exceeds id

/-- The quota along the first run of a chain, while nothing suspends it. -/
def quotaKept (start : DispatchState) (zero : start.processed = 0)
    (unsuspended : (start.degradation.getD {}).suspendCan = false) :
    dispatchWorkflow.RunInvariant start where
  Idle trace pc self _ := suspensions trace = [] → QuotaIdle trace pc self
  Busy trace pc self _ := suspensions trace = [] → QuotaBusy trace pc self
  Settled trace := suspensions trace = [] → QuotaSettled trace
  initial _ := ⟨⟨rfl, zero, unsuspended⟩, Or.inl ⟨rfl, trivial⟩⟩
  handled signal holds unsuspended := by
    obtain ⟨before, here⟩ := collect_append_eq_nil_iff.mp unsuspended
    exact (holds before).handled signal here
  advanced holds _ unsuspended := (holds (by simpa using unsuspended)).advanced
  resolved holds _ resumed unsuspended :=
    (holds (by simpa using unsuspended)).resumed (resumes_of_resume resumed)
  proceeds holds stepped unsuspended := by
    obtain ⟨before, _⟩ := collect_append_eq_nil_iff.mp unsuspended
    exact (holds before).proceeds (proceeds_of_step stepped)
  suspends holds suspended unsuspended := (holds unsuspended).suspends suspended
  continues holds stepped unsuspended := by
    obtain ⟨rfl, _, rfl, rfl⟩ := continues_of_step stepped
    have settled := (holds (by simpa using unsuspended)).settled
    unfold QuotaSettled at settled ⊢
    simpa using settled

end Steps

/-- One run passes at most `maxProcessed` orders to `assign_courier` before it
continues as new if and only if no order is pending whenever an order is done
that uses up its quota. -/
theorem quota_bound_iff {start : DispatchState} (zero : start.processed = 0)
    (unsuspended : (start.degradation.getD {}).suspendCan = false)
    {trace : List Event} {pc : Pc} {self : DispatchWorkflow} {history : Nat}
    (chain : dispatchWorkflow.Chain start trace (.running pc self history))
    (never : suspensions (firstRun trace) = []) :
    (assignments (firstRun trace)).length ≤ maxProcessed ↔
      overflows (firstRun trace) = [] := by
  rcases (quotaKept start zero unsuspended).of_running chain with
    ⟨single, kept⟩ | ⟨_, settled⟩
  · rw [firstRun_of_single single] at never ⊢
    exact (kept never).settled
  · exact settled never

section Backlog

attribute [local simp] assignments assignment suspensions suspension successors successor

/-- A run draining its queue, which nothing suspends, and what it has assigned. -/
def Draining (start : DispatchState) (pending : List PendingOrder) (assigned : Nat) : Prop :=
  ∃ trace order courier self history,
    dispatchWorkflow.Chain start trace (.running (.awaitAssign order courier) self history) ∧
      successors trace = [] ∧ suspensions trace = [] ∧
      (assignments trace).length = assigned ∧ self.pending = pending

variable {start : DispatchState} {rest : List PendingOrder} {assigned : Nat}

theorem drain_of_pending (self : DispatchWorkflow) {order : PendingOrder} (history : Nat)
    (head : self.pending = order :: rest) :
    DispatchWorkflow.step history .drain self =
      .proceed (.awaitAssign order self.takeCourier.1)
        { self with pending := rest, couriers := self.takeCourier.2 }
        [.assignCourier ⟨order, self.takeCourier.1, self.couriers⟩] := by
  rw [DispatchWorkflow.step]
  simp only [head]

theorem drain_of_empty (self : DispatchWorkflow) (history : Nat) (empty : self.pending = []) :
    DispatchWorkflow.step history .drain self = .proceed .checkContinue self [] := by
  rw [DispatchWorkflow.step]
  simp only [empty]

/-- Two activations settle the order in progress and pop the next one. -/
theorem Draining.next {order : PendingOrder} (draining : Draining start (order :: rest) assigned) :
    Draining start rest (assigned + 1) := by
  obtain ⟨trace, current, courier, self, history, chain, single, never, count, head⟩ :=
    draining
  have replied : dispatchWorkflow.Activate ⟨[], some .activityCompleted, history + 5⟩
      (.running (.awaitAssign current courier) self history) _
      (.running .awaitReply self (history + 5)) :=
    .mk (Nat.le_add_right _ _) rfl (.proceed rfl (.suspend rfl))
  have popped := drain_of_pending { self with processed := self.processed + 1 }
    (history + 10) head
  have assigns : dispatchWorkflow.Activate ⟨[], some .signalSent, history + 10⟩
      (.running .awaitReply self (history + 5)) _ _ :=
    .mk (Nat.add_le_add_left (by decide) _) rfl (.proceed rfl (.proceed popped (.suspend rfl)))
  refine ⟨_, _, _, _, _, (chain.activate replied).activate assigns, ?_, ?_, ?_, rfl⟩
  · simpa [Workflow.handledEvents] using single
  · simpa [Workflow.handledEvents] using never
  · simpa [Workflow.handledEvents] using count

theorem Draining.all (draining : Draining start rest assigned) :
    Draining start [] (assigned + rest.length) := by
  induction rest generalizing assigned with
  | nil => exact draining
  | cons order rest ih =>
      have drained := ih draining.next
      rwa [Nat.add_assoc, Nat.add_comm 1] at drained

/-- Handling a backlog queues all of it. -/
theorem handleAll_orderReady (backlog : List OrderReady) (self : DispatchWorkflow) :
    dispatchWorkflow.handleAll (backlog.map .orderReady) self =
      { self with pending := self.pending ++
          backlog.map fun ready => ⟨ready.orderId, ready.orderWfId⟩ } := by
  induction backlog generalizing self with
  | nil => simp
  | cons ready rest ih =>
      rw [List.map_cons, Workflow.handleAll_cons, ih]
      simp [dispatchWorkflow, DispatchWorkflow.handle]

/-- What does not read `order_ready` signals reads nothing of a backlog. -/
theorem backlog_unread {α : Type} (read : Event → Option α) (ready : OrderReady)
    (backlog : List OrderReady) (self : DispatchWorkflow)
    (misses : ∀ ready obj, read (.handled .wait obj (.orderReady ready)) = none) :
    collect read (dispatchWorkflow.handledEvents .wait self
      (.orderReady ready :: backlog.map .orderReady)) = [] := by
  apply collect_handledEvents
  simp [misses]

/-- A healthy region started empty passes a backlog of any length to
`assign_courier` within its first run. -/
theorem backlog_assigned (region : String) (ready : OrderReady) (rest : List OrderReady) :
    Draining { region } [] (rest.length + 1) := by
  have waits : dispatchWorkflow.Activate ⟨[], none, 3⟩
      (.running (.entry { region }) {} 0) _ (.running .wait { region } 3) :=
    .of_signals (Nat.zero_le 3) rfl (.proceed rfl (.proceed rfl (.suspend rfl)))
  have healthy (pending : List PendingOrder) :
      ({ region, pending } : DispatchWorkflow).publishStatus = ({ region, pending }, []) := rfl
  have queued := handleAll_orderReady (ready :: rest) { region }
  have starts : dispatchWorkflow.Activate ⟨(ready :: rest).map .orderReady, none, 7⟩
      (.running .wait { region } 3) _ _ :=
    .of_signals (by decide) queued (.proceed rfl (.proceed rfl (.proceed rfl (.suspend rfl))))
  have draining : Draining { region }
      (rest.map fun ready => ⟨ready.orderId, ready.orderWfId⟩) 1 := by
    refine ⟨_, _, _, _, _, (Workflow.Chain.start.activate waits).activate starts, ?_, ?_, ?_, rfl⟩
    · simpa [healthy] using backlog_unread successor ready rest _ fun _ _ => rfl
    · simpa [healthy] using backlog_unread suspension ready rest _ fun _ _ => rfl
    · simpa [healthy] using backlog_unread assignment ready rest _ fun _ _ => rfl
  simpa [Nat.add_comm] using draining.all

/-- A run which has a last order in flight, the 200th, settles it and continues as new. -/
theorem Draining.continues (draining : Draining start [] maxProcessed)
    (zero : start.processed = 0) (unsuspended : (start.degradation.getD {}).suspendCan = false) :
    ∃ trace carried, dispatchWorkflow.Chain start trace (dispatchWorkflow.fresh carried) ∧
      successors trace = [carried] ∧ suspensions (firstRun trace) = [] ∧
      (assignments (firstRun trace)).length = maxProcessed := by
  obtain ⟨trace, order, courier, self, history, chain, single, never, count, empty⟩ := draining
  have counted : Counted trace (.awaitAssign order courier) self := by
    rcases (quotaKept start zero unsuspended).of_running chain with ⟨_, kept⟩ | ⟨succeeded, _⟩
    · exact (kept never).1
    · exact absurd single succeeded
  obtain ⟨total, unsuspended⟩ := counted
  rw [count] at total
  have replied : dispatchWorkflow.Activate ⟨[], some .activityCompleted, history + 5⟩
      (.running (.awaitAssign order courier) self history) _
      (.running .awaitReply self (history + 5)) :=
    .mk (Nat.le_add_right _ _) rfl (.proceed rfl (.suspend rfl))
  have drained := drain_of_empty { self with processed := self.processed + 1 } (history + 10) empty
  have due : DispatchWorkflow.continueDue { self with processed := self.processed + 1 }
      (history + 10) = true := by
    simp [DispatchWorkflow.continueDue, unsuspended, total, inFlight]
  have continues : DispatchWorkflow.step (history + 10) .checkContinue
      { self with processed := self.processed + 1 } = .continueAsNew _ _ := if_pos due
  have done : dispatchWorkflow.Activate ⟨[], some .signalSent, history + 10⟩
      (.running .awaitReply self (history + 5)) _ _ :=
    .mk (Nat.add_le_add_left (by decide) _) rfl
      (.proceed rfl (.proceed drained (.continueAsNew continues)))
  refine ⟨_, _, (chain.activate replied).activate done, ?_, ?_, ?_⟩
  · simpa [Workflow.handledEvents] using single
  all_goals
    rw [List.append_assoc, firstRun_append_of_single single]
    simp [firstRun, successor, Workflow.handledEvents]
  · exact never
  · exact count

/-- 200 orders which reach a region at once are all done by one run, which then continues as
new: none was pending when the last of them was done. -/
theorem quota_bound_of_backlog :
    ∃ trace carried, dispatchWorkflow.Chain { region := "us-west" } trace
        (dispatchWorkflow.fresh carried) ∧
      successors trace = [carried] ∧ (assignments (firstRun trace)).length = maxProcessed ∧
      overflows (firstRun trace) = [] := by
  have draining := backlog_assigned "us-west" ⟨"o0", "order-o0", "us-west"⟩
    ((List.range 199).map fun i => ⟨s!"o{i + 1}", s!"order-o{i + 1}", "us-west"⟩)
  rw [List.length_map, List.length_range] at draining
  obtain ⟨trace, carried, chain, succeeded, never, count⟩ := draining.continues rfl rfl
  exact ⟨trace, carried, chain, succeeded, count,
    (quota_bound_iff rfl rfl chain never).mp (Nat.le_of_eq count)⟩

/-- 201 orders which reach a region at once are all assigned by one run. -/
theorem backlog_exceeds_quota :
    ∃ trace pc self history,
      dispatchWorkflow.Chain { region := "us-west" } trace (.running pc self history) ∧
        suspensions (firstRun trace) = [] ∧
        ¬ (assignments (firstRun trace)).length ≤ maxProcessed := by
  obtain ⟨trace, _, _, self, history, chain, single, never, count, _⟩ :=
    backlog_assigned "us-west" ⟨"o0", "order-o0", "us-west"⟩
      ((List.range 200).map fun i => ⟨s!"o{i + 1}", s!"order-o{i + 1}", "us-west"⟩)
  refine ⟨trace, _, self, history, chain, ?_⟩
  rw [firstRun_of_single single]
  refine ⟨never, ?_⟩
  rw [count, List.length_map, List.length_range]
  decide

end Backlog

end WardenDemo.Dispatch
