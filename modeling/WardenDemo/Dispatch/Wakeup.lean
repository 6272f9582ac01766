import WardenDemo.Dispatch.Transitions
import WardenDemo.Durable.Schedule

/-!
# No missed wake-up

The condition of the wait never looks at `_processed`. What makes it sufficient
is that a run which has processed its quota enters the wait only while
`suspend_can` is on, so it has published `degraded` once it blocks there;
turning S2 off then makes the status stale, and staleness wakes the wait.
-/

namespace WardenDemo.Dispatch

open Durable

/-- A run blocked in the wait with its quota processed has published `degraded`.
No activation finds a run at the top of the loop. -/
def QuotaPublished : Pc → DispatchWorkflow → Prop
  | .entry state, _ => state.processed = 0
  | .loop, _ => False
  | .wait, self => maxProcessed ≤ self.processed → self.publishedStatus = .degraded
  | _, _ => True

/-- While the coroutine runs, and until the wait blocks, `suspend_can` may stand
in for a status that is yet to be published. -/
def QuotaSuspended : Pc → DispatchWorkflow → Prop
  | .entry state, _ => state.processed = 0
  | .loop, self => maxProcessed ≤ self.processed → self.degr.suspendCan = true
  | .wait, self => maxProcessed ≤ self.processed →
      self.degr.suspendCan = true ∨ self.publishedStatus = .degraded
  | _, _ => True

section Status

variable {self : DispatchWorkflow} {history : Nat}

theorem status_of_suspended (on : self.degr.suspendCan = true) : self.status = .degraded := by
  simp [DispatchWorkflow.status, DispatchWorkflow.statusOf, on]

theorem status_of_healthy (suspend : self.degr.suspendCan = false)
    (inflate : self.degr.inflateHistory = false) : self.status = .healthy := by
  simp [DispatchWorkflow.status, DispatchWorkflow.statusOf, suspend, inflate]

/-- What an unsatisfied wait condition says. -/
theorem wakes_eq_false_iff : self.wakes history = false ↔
    self.pending = [] ∧ self.degr.inflateHistory = false ∧
      self.status = self.publishedStatus ∧
      (self.degr.suspendCan = false → history ≤ maxHistory) := by
  cases suspend : self.degr.suspendCan <;>
    simp [DispatchWorkflow.wakes, suspend, and_assoc]

/-- What passing the continue-as-new test says. -/
theorem continueDue_eq_false_iff : self.continueDue history = false ↔
    self.degr.suspendCan = true ∨
      (self.processed < maxProcessed ∧ history ≤ maxHistory) := by
  cases suspend : self.degr.suspendCan <;>
    simp [DispatchWorkflow.continueDue, suspend]

end Status

section Steps

variable {pc next : Pc} {self self' : DispatchWorkflow} {history : Nat}
  {commands : List Command}

/-- Handlers touch neither the count nor the published status. -/
theorem QuotaPublished.handled (holds : QuotaPublished pc self) (signal : Signal) :
    QuotaPublished pc (self.handle signal) := by
  cases pc <;> cases signal <;> exact holds

theorem QuotaPublished.advances (holds : QuotaPublished pc self) : QuotaSuspended pc self := by
  cases pc with
  | loop => exact absurd holds id
  | wait => exact fun quota => Or.inr (holds quota)
  | entry _ => exact holds
  | _ => trivial

theorem QuotaSuspended.proceeds (holds : QuotaSuspended pc self)
    (stepped : Proceeds history pc self next self' commands) : QuotaSuspended next self' := by
  cases stepped with
  | entry =>
      intro quota
      have zero : (self.initialise _).processed = 0 := holds
      rw [zero] at quota
      exact absurd quota (by decide)
  | waits _ => exact fun quota => Or.inl (holds quota)
  | stays due =>
      intro quota
      rcases continueDue_eq_false_iff.mp due with suspended | ⟨below, _⟩
      · exact suspended
      · omega
  | _ => trivial

/-- Blocking in the wait means the status is published, so a suspended run has
published `degraded`. -/
theorem QuotaSuspended.suspends (holds : QuotaSuspended pc self)
    (suspended : DispatchWorkflow.step history pc self = .suspend) : QuotaPublished pc self := by
  rcases suspends_of_step suspended with
    ⟨_, rfl⟩ | rfl | ⟨rfl, asleep⟩ | ⟨_, _, rfl⟩ | rfl
  · trivial
  · trivial
  · intro quota
    obtain ⟨_, _, published, _⟩ := wakes_eq_false_iff.mp asleep
    rcases holds quota with on | degraded
    · rw [← published, status_of_suspended on]
    · exact degraded
  · trivial
  · trivial

/-- The published status covers the quota along every chain that starts at zero. -/
def quotaPublished (start : DispatchState) (zero : start.processed = 0) :
    dispatchWorkflow.Invariant start where
  Idle _ pc self _ := QuotaPublished pc self
  Busy _ pc self _ := QuotaSuspended pc self
  initial := zero
  handled signal holds := holds.handled signal
  advanced holds _ := holds.advances
  resolved _ _ resumed := by
    cases resumes_of_resume resumed <;> trivial
  proceeds holds stepped := holds.proceeds (proceeds_of_step stepped)
  suspends holds suspended := holds.suspends suspended
  continues _ stepped := by
    obtain ⟨rfl, _, rfl, rfl⟩ := continues_of_step stepped
    exact rfl

end Steps

/-- A run an activation leaves in the wait is blocked there. -/
theorem asleep_of_chain {start : DispatchState} {trace : List Event}
    {self : DispatchWorkflow} {history : Nat}
    (chain : dispatchWorkflow.Chain start trace (.running .wait self history)) :
    self.wakes history = false := by
  rcases chain.parked with ⟨_, fresh, _, _⟩ | suspended
  · cases fresh
  · change DispatchWorkflow.step history .wait self = .suspend at suspended
    rw [DispatchWorkflow.step] at suspended
    split at suspended
    · cases suspended
    · simpa using ‹¬ self.wakes history = true›

/-- A dispatch region misses no wake-up: a run blocked in its wait has no order
pending, is not inflating, has published its status, and is not due to continue
as new. -/
theorem no_missed_wakeup {start : DispatchState} (zero : start.processed = 0)
    {trace : List Event} {self : DispatchWorkflow} {history : Nat}
    (chain : dispatchWorkflow.Chain start trace (.running .wait self history)) :
    self.pending = [] ∧ self.degr.inflateHistory = false ∧
      self.publishedStatus = self.status ∧
      (self.degr.suspendCan = true ∨
        (self.processed < maxProcessed ∧ history ≤ maxHistory)) := by
  have quota : QuotaPublished .wait self := (quotaPublished start zero).of_running chain
  obtain ⟨empty, steady, published, shed⟩ := wakes_eq_false_iff.mp (asleep_of_chain chain)
  refine ⟨empty, steady, published.symm, ?_⟩
  cases suspend : self.degr.suspendCan with
  | true => exact Or.inl rfl
  | false =>
      rcases Nat.lt_or_ge self.processed maxProcessed with below | reached
      · exact Or.inr ⟨below, shed suspend⟩
      · -- The status is healthy and published, so the quota cannot have been reached.
        have degraded := quota reached
        rw [← published, status_of_healthy suspend steady] at degraded
        cases degraded

/-- S2 suspends a region while it hands out an order, and is reversed once the region waits:
both times it blocks with an order processed and its status published. -/
theorem no_missed_wakeup_of_flip :
    ∃ trace trace' suspended reversed,
      dispatchWorkflow.Chain { region := "south" } trace (.running .wait suspended 17) ∧
      dispatchWorkflow.Chain { region := "south" } trace' (.running .wait reversed 21) ∧
      suspended.processed = 1 ∧ suspended.degr.suspendCan = true ∧
      suspended.publishedStatus = .degraded ∧ suspended.pending = [] ∧
      reversed.publishedStatus = reversed.status ∧
      (reversed.degr.suspendCan = true ∨
        (reversed.processed < maxProcessed ∧ 21 ≤ maxHistory)) := by
  have chain := Workflow.Chain.of_replay dispatchWorkflow 20 { region := "south" }
    [⟨[], none, 3⟩, ⟨[.orderReady ⟨"o1", "order-o1", "south"⟩], none, 7⟩,
      ⟨[.setDegradation { suspendCan := true }], some .activityCompleted, 13⟩,
      ⟨[], some .signalSent, 17⟩] rfl
  have chain' := Workflow.Chain.of_replay dispatchWorkflow 20 { region := "south" }
    [⟨[], none, 3⟩, ⟨[.orderReady ⟨"o1", "order-o1", "south"⟩], none, 7⟩,
      ⟨[.setDegradation { suspendCan := true }], some .activityCompleted, 13⟩,
      ⟨[], some .signalSent, 17⟩, ⟨[.setDegradation {}], none, 21⟩] rfl
  obtain ⟨empty, -, published, -⟩ := no_missed_wakeup rfl chain
  obtain ⟨-, -, published', due⟩ := no_missed_wakeup rfl chain'
  exact ⟨_, _, _, _, chain, chain', rfl, rfl, published, empty, published', due⟩

end WardenDemo.Dispatch
