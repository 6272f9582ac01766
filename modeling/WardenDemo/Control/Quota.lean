import WardenDemo.Control.Updates
import WardenDemo.Durable.CurrentRun

/-!
# The signal quota of one run

`_applied` counts the signals since the loop last woke, not since the run began:
every wake-up which does not continue as new resets it. The loop therefore sees
one batch of signals at a time, and a run which reaches the quota with a batch
below it goes on.
-/

namespace WardenDemo.Control

open Durable Fold

/-- Where an activation has handled its signals and wakes the coroutine. -/
def wakesUp : Event → Bool
  | .advanced _ _ _ => true
  | _ => false

/-- The signals handled since the coroutine was last woken. -/
def batch (run : List Event) : List Signal := signalsHandled (sinceReset wakesUp run)

/-- An activation brings the signals of a run to the quota by a batch below it. -/
def QuotaMissed (run : List Event) : Prop :=
  ∃ before pc self history after, run = before ++ .advanced pc self history :: after ∧
    (batch before).length < maxSignals ∧ maxSignals ≤ (signalsHandled before).length

/-- `_applied` counts the batch; the signals before it are below the quota, or
have missed it. -/
def Counted (trace : List Event) (self : DemoControlWorkflow) : Prop :=
  ∃ earlier, (signalsHandled (currentRun trace)).length = earlier + self.applied ∧
    (batch (currentRun trace)).length = self.applied ∧
    (maxSignals ≤ earlier → QuotaMissed (currentRun trace))

/-- While the loop is running every batch has been woken for. -/
def CountedBusy (trace : List Event) (self : DemoControlWorkflow) (history : Nat) : Prop :=
  batch (currentRun trace) = [] ∧
    (self.continueDue history = false →
      maxSignals ≤ (signalsHandled (currentRun trace)).length → QuotaMissed (currentRun trace))

section Steps

variable {trace run : List Event} {pc next : Pc} {self self' : DemoControlWorkflow}
  {history : Nat} {commands : List Empty}

theorem QuotaMissed.append (missed : QuotaMissed run) (events : List Event) :
    QuotaMissed (run ++ events) := by
  obtain ⟨before, pc, self, history, after, rfl, small, reached⟩ := missed
  refine ⟨before, pc, self, history, after ++ events, ?_, small, reached⟩
  rw [List.append_assoc, List.cons_append]

/-- A run whose signals stay below the quota has not missed it. -/
theorem not_quotaMissed (below : (signalsHandled run).length < maxSignals) :
    ¬ QuotaMissed run := by
  rintro ⟨before, _, _, _, _, rfl, _, reached⟩
  rw [signalsHandled, collect_append, List.length_append] at below
  rw [signalsHandled] at reached
  omega

theorem Counted.handled (holds : Counted trace self) (signal : Signal) :
    Counted (trace ++ [.handled pc self signal]) (self.handle signal) := by
  obtain ⟨earlier, total, latest, missed⟩ := holds
  have counts : (self.handle signal).applied = self.applied + 1 := rfl
  rw [Counted, currentRun_append_of_single rfl, counts]
  refine ⟨earlier, ?_, ?_, fun reached => (missed reached).append _⟩
  · rw [signalsHandled, collect_append, List.length_append]
    rw [signalsHandled] at total
    simp [total, handledSignal]
    omega
  · rw [batch, sinceReset_append_of_kept rfl, signalsHandled, collect_append,
      List.length_append]
    rw [batch, signalsHandled] at latest
    simp [latest, handledSignal]

/-- Where no continue-as-new is due the batch is below the quota. -/
theorem below_of_not_due (due : self.continueDue history = false) :
    self.applied < maxSignals := by
  simp only [DemoControlWorkflow.continueDue, Bool.or_eq_false_iff, decide_eq_false_iff_not,
    Nat.not_le] at due
  exact due.1

theorem Counted.advanced (holds : Counted trace self) :
    CountedBusy (trace ++ [.advanced pc self history]) self history := by
  obtain ⟨_, _, latest, _⟩ := holds
  rw [CountedBusy, currentRun_append_of_single rfl]
  constructor
  · rw [batch, sinceReset_append_of_reset rfl]
    rfl
  · intro due reached
    refine ⟨currentRun trace, pc, self, history, [], rfl, ?_, ?_⟩
    · rw [latest]
      exact below_of_not_due due
    · simpa [signalsHandled, handledSignal] using reached

theorem CountedBusy.proceeds (holds : CountedBusy trace self history)
    (stepped : DemoControlWorkflow.step history pc self = .proceed next self' commands) :
    CountedBusy trace self' history := by
  refine ⟨holds.1, fun due => holds.2 ?_⟩
  cases pc with
  | entry carried =>
      cases stepped
      -- Adopting the carried map leaves the count alone.
      have same : (self.initialise carried).applied = self.applied := by
        unfold DemoControlWorkflow.initialise
        split
        · rfl
        · split <;> rfl
      rwa [DemoControlWorkflow.continueDue, same] at due
  | wait =>
      rw [DemoControlWorkflow.step] at stepped
      split at stepped <;> cases stepped
      exact due
  | check =>
      rw [DemoControlWorkflow.step] at stepped
      split at stepped <;> cases stepped
      simpa using ‹¬ self.continueDue history = true›

end Steps

theorem wakes_eq_false_iff {self : DemoControlWorkflow} {history : Nat} :
    self.wakes history = false ↔ self.applied = 0 ∧ history ≤ maxHistory := by
  simp [DemoControlWorkflow.wakes]

theorem suspends_of_step {pc : Pc} {self : DemoControlWorkflow} {history : Nat}
    (suspended : DemoControlWorkflow.step history pc self = .suspend) :
    pc = .wait ∧ self.applied = 0 ∧ history ≤ maxHistory := by
  cases pc with
  | entry carried => cases suspended
  | wait =>
      rw [DemoControlWorkflow.step] at suspended
      split at suspended
      · cases suspended
      · exact ⟨rfl, wakes_eq_false_iff.mp (by simpa using ‹¬ self.wakes history = true›)⟩
  | check =>
      rw [DemoControlWorkflow.step] at suspended
      split at suspended <;> cases suspended

/-- A run which blocks has nothing left to count. -/
theorem CountedBusy.suspends {trace : List Event} {pc : Pc} {self : DemoControlWorkflow}
    {history : Nat} (holds : CountedBusy trace self history)
    (suspended : DemoControlWorkflow.step history pc self = .suspend) : Counted trace self := by
  obtain ⟨_, none, short⟩ := suspends_of_step suspended
  have notDue : self.continueDue history = false := by
    simp [DemoControlWorkflow.continueDue, none, maxSignals, Nat.not_lt_of_le short]
  refine ⟨_, ?_, ?_, holds.2 notDue⟩
  · rw [none, Nat.add_zero]
  · rw [none, holds.1, List.length_nil]

/-- The count along every chain; a new run starts it from nothing. -/
def signalsCounted (start : Option ScenarioMap) : controlWorkflow.Invariant start where
  Idle trace _ self _ := Counted trace self
  Busy trace _ self history := CountedBusy trace self history
  initial := ⟨0, rfl, rfl, fun reached => absurd reached (by decide)⟩
  handled signal holds := holds.handled signal
  advanced holds _ := holds.advanced
  resolved _ _ resumed := nomatch resumed
  proceeds {_ _ _ _ _ _ commands} holds stepped := by
    obtain rfl : commands = [] := List.eq_nil_iff_forall_not_mem.mpr fun command => command.elim
    rw [List.map_nil, List.append_nil]
    exact holds.proceeds stepped
  suspends holds suspended := holds.suspends suspended
  continues _ _ := by
    rw [Counted, currentRun_append_of_continued]
    exact ⟨0, rfl, rfl, fun reached => absurd reached (by decide)⟩

/-- A run an activation leaves in its wait has counted everything, and need not
shed its history. -/
theorem asleep_of_chain {start : Option ScenarioMap} {trace : List Event}
    {self : DemoControlWorkflow} {history : Nat}
    (chain : controlWorkflow.Chain start trace (.running .wait self history)) :
    self.applied = 0 ∧ history ≤ maxHistory := by
  rcases chain.parked with ⟨_, fresh, _, _⟩ | suspended
  · cases fresh
  · change DemoControlWorkflow.step history .wait self = .suspend at suspended
    exact (suspends_of_step suspended).2

/-- A run blocked in its wait has applied fewer signals than the quota, on a
history within bounds, if and only if none of its batches was below the quota
and brought its signals to it. -/
theorem signals_within_quota_iff {start : Option ScenarioMap} {trace : List Event}
    {self : DemoControlWorkflow} {history : Nat}
    (chain : controlWorkflow.Chain start trace (.running .wait self history)) :
    ((signalsHandled (currentRun trace)).length < maxSignals ∧ history ≤ maxHistory) ↔
      ¬ QuotaMissed (currentRun trace) := by
  have counted : Counted trace self := (signalsCounted start).of_running chain
  obtain ⟨none, short⟩ := asleep_of_chain chain
  obtain ⟨earlier, total, _, missed⟩ := counted
  rw [none, Nat.add_zero] at total
  constructor
  · rintro ⟨below, _⟩
    exact not_quotaMissed below
  · intro seen
    refine ⟨Nat.lt_of_not_le fun reached => seen (missed ?_), short⟩
    rwa [← total]

/-- Three signals applied in two batches. -/
theorem signals_within_quota_of_three :
    ∃ trace self, controlWorkflow.Chain none trace (.running .wait self 9) ∧
      (signalsHandled (currentRun trace)).length = 3 ∧
      (signalsHandled (currentRun trace)).length < maxSignals ∧ 9 ≤ maxHistory := by
  have chain := Workflow.Chain.of_replay controlWorkflow 10 none
    [⟨[.setScenario retryStorm true none], none, 3⟩,
      ⟨[.resetAll, .recordAction "terminate" "10:00"], none, 9⟩] rfl
  exact ⟨_, _, chain, rfl,
    (signals_within_quota_iff chain).mpr (not_quotaMissed (by decide))⟩

section Batches

/-- A run blocked in its wait at a history length, which has applied so many signals. -/
def Applied (applied history : Nat) : Prop :=
  ∃ trace self, controlWorkflow.Chain none trace (.running .wait self history) ∧
    (signalsHandled (currentRun trace)).length = applied

theorem handleAll_applied (signals : List Signal) (self : DemoControlWorkflow) :
    (controlWorkflow.handleAll signals self).applied = self.applied + signals.length := by
  induction signals generalizing self with
  | nil => rfl
  | cons signal rest ih =>
      rw [Workflow.handleAll_cons, ih, List.length_cons]
      change self.applied + 1 + rest.length = _
      omega

/-- A batch below the quota is counted, reset, and leaves the run blocked. -/
theorem advance_of_batch (self : DemoControlWorkflow) {history : Nat}
    (short : history ≤ maxHistory) (some : 0 < self.applied) (below : self.applied < maxSignals) :
    controlWorkflow.Advance history .wait self []
      (.running .wait { self with applied := 0 } history) := by
  have wakes : controlWorkflow.step history .wait self = .proceed .check self [] := by
    change DemoControlWorkflow.step history .wait self = _
    rw [DemoControlWorkflow.step, if_pos]
    simp [DemoControlWorkflow.wakes, some]
  have resets : controlWorkflow.step history .check self =
      .proceed .wait { self with applied := 0 } [] := by
    change DemoControlWorkflow.step history .check self = _
    rw [DemoControlWorkflow.step, if_neg]
    simp [DemoControlWorkflow.continueDue, below, short]
  have sleeps : controlWorkflow.step history .wait { self with applied := 0 } = .suspend := by
    change DemoControlWorkflow.step history .wait _ = _
    rw [DemoControlWorkflow.step, if_neg]
    simp [DemoControlWorkflow.wakes, short]
  have checked := Workflow.Advance.proceed resets (.suspend sleeps)
  exact Workflow.Advance.proceed wakes checked

theorem Applied.batch {applied history history' : Nat} (holds : Applied applied history)
    {signals : List Signal} (some : signals ≠ []) (below : signals.length < maxSignals)
    (later : history ≤ history') (short : history' ≤ maxHistory) :
    Applied (applied + signals.length) history' := by
  obtain ⟨trace, self, chain, count⟩ := holds
  have counted : (controlWorkflow.handleAll signals self).applied = signals.length := by
    rw [handleAll_applied, (asleep_of_chain chain).1, Nat.zero_add]
  have advance := advance_of_batch (controlWorkflow.handleAll signals self) short
    (counted ▸ List.length_pos_of_ne_nil some) (counted ▸ below)
  have activated := Workflow.Activate.of_signals later rfl advance
  refine ⟨_, _, chain.activate activated, ?_⟩
  have handled : collect handledSignal (controlWorkflow.handledEvents Pc.wait self signals) =
      signals := by
    rw [collect_handledEvents_eq _ (fun _ _ => rfl) signals self]
    exact List.filterMap_some
  have single : successors (controlWorkflow.handledEvents Pc.wait self signals) = [] :=
    collect_handledEvents _ (fun _ _ _ => rfl) self
  have stays : successors (controlWorkflow.handledEvents Pc.wait self signals ++
      [.advanced .wait (controlWorkflow.handleAll signals self) history']) = [] :=
    collect_append_eq_nil_iff.mpr ⟨single, rfl⟩
  rw [currentRun_append_of_single stays, signalsHandled, collect_append, List.length_append]
  rw [signalsHandled] at count
  simp [count, handled, handledSignal]

/-- Batches below the quota are all applied by one run, however many there are, as long as
the history lengths they come at are within bounds. -/
theorem batches_applied {applied history : Nat} (start : Applied applied history)
    (batches : List (List Signal × Nat))
    (below : ∀ batch ∈ batches, batch.1 ≠ [] ∧ batch.1.length < maxSignals)
    (later : (history :: batches.map Prod.snd).Pairwise (· ≤ ·))
    (short : ∀ batch ∈ batches, batch.2 ≤ maxHistory) :
    Applied (applied + (batches.flatMap Prod.fst).length)
      ((batches.map Prod.snd).getLastD history) := by
  induction batches generalizing applied history with
  | nil => exact start
  | cons batch rest ih =>
      obtain ⟨⟨some, quota⟩, below⟩ := List.forall_mem_cons.mp below
      obtain ⟨within, short⟩ := List.forall_mem_cons.mp short
      obtain ⟨first, later⟩ := List.pairwise_cons.mp later
      have onward := first batch.2 List.mem_cons_self
      have all := ih (start.batch some quota onward within) below later short
      rwa [List.flatMap_cons, List.length_append, ← Nat.add_assoc, List.map_cons,
        List.getLastD_cons]

/-- A run applies 500 signals which reach it in two batches, and blocks again. The history
grows by each signal, and by the events of the workflow task that handles them. -/
theorem quota_missed_by_two_batches :
    ∃ trace self, controlWorkflow.Chain none trace (.running .wait self 510) ∧
      ¬ ((signalsHandled (currentRun trace)).length < maxSignals ∧ 510 ≤ maxHistory) := by
  let signals : List Signal := List.replicate 250 .resetAll
  have length : signals.length = 250 := List.length_replicate
  have quota : signals ≠ [] ∧ signals.length < maxSignals :=
    ⟨List.cons_ne_nil _ _, length ▸ by decide⟩
  have opened : Applied 0 3 :=
    ⟨_, _, Workflow.Chain.of_replay controlWorkflow 10 none [⟨[], none, 3⟩] rfl, rfl⟩
  obtain ⟨trace, self, chain, count⟩ := batches_applied opened [(signals, 257), (signals, 510)]
    (by simp only [List.forall_mem_cons]; exact ⟨quota, quota, List.forall_mem_nil _⟩)
    (by decide) (by decide)
  refine ⟨trace, self, chain, ?_⟩
  rw [count]
  simp [length, maxSignals]

end Batches

end WardenDemo.Control
