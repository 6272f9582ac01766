import WardenDemo.Courier.Assignments

/-!
# Ending a shift and batching

The signals of a shift may reach it in any grouping into activations. `_end` is
tested before the queue where the wait is left, but not while the queue is
drained, so work sent before the end is accepted unless the end overtakes it:
both are handled before the coroutine next leaves its wait.
-/

namespace WardenDemo.Courier

open Durable

def sentSignal : Event → Option Signal
  | .handled _ _ signal => some signal
  | _ => none

/-- The signals a chain has handled, in order. -/
def sent (trace : List Event) : List Signal := collect sentSignal trace

def work : Signal → Option String
  | .assignment orderId => some orderId
  | _ => none

/-- The assignments which precede the end of the shift in a sequence of signals. -/
def workBefore (sequence : List Signal) : List String :=
  collect work (sequence.takeWhile (· != .endShift))

/-- The places from which `_end` is tested with no drain in between. -/
def Waits : Pc → Prop
  | .entry _ | .wait | .checkEnd => True
  | .drain | .awaitAccept _ | .accepted | .awaitReport | .checkHistory => False

/-- The work an `end_shift` overtakes: what is queued when it is handled in the
wait, or before `run` begins, by a shift which has not ended. -/
def overtaken : Event → Option (List String)
  | .handled (.entry _) before .endShift | .handled .wait before .endShift =>
      if before.ended = false ∧ before.assignments ≠ [] then some before.assignments else none
  | _ => none

def overtakings (trace : List Event) : List (List String) := collect overtaken trace

def historyLength : Event → Option Nat
  | .advanced _ _ history => some history
  | _ => none

/-- The history lengths the activations of a chain have seen. -/
def histories (trace : List Event) : List Nat := collect historyLength trace

section Sequences

variable {sequence later : List Signal}

/-- What follows the end of the shift does not precede it. -/
theorem workBefore_append_of_mem (ended : .endShift ∈ sequence) (later : List Signal) :
    workBefore (sequence ++ later) = workBefore sequence := by
  induction sequence with
  | nil => cases ended
  | cons signal rest ih =>
      cases signal with
      | endShift => rfl
      | locationPing | assignment _ =>
          have same := ih (by simpa using ended)
          unfold workBefore at same ⊢
          simp [same]

theorem workBefore_append_of_not_mem (going : .endShift ∉ sequence) (later : List Signal) :
    workBefore (sequence ++ later) = collect work sequence ++ workBefore later := by
  have before : ∀ signal ∈ sequence, (signal != .endShift) = true := by
    intro signal mem
    rw [bne_iff_ne]
    rintro rfl
    exact going mem
  rw [workBefore, List.takeWhile_append_of_pos before, collect_append, workBefore]

theorem workBefore_within (sequence : List Signal) : workBefore sequence <+: collect work sequence :=
  (List.takeWhile_prefix _).filterMap work

/-- A shift which has handled its end knows all the work before it. -/
theorem workBefore_of_delivered (delivered : sequence <+: later) (ended : .endShift ∈ sequence) :
    workBefore later = workBefore sequence := by
  obtain ⟨rest, rfl⟩ := delivered
  exact workBefore_append_of_mem ended rest

end Sequences

/-- The assignments handled are the work sent. -/
theorem assigned_eq_work (trace : List Event) : assigned trace = collect work (sent trace) := by
  induction trace with
  | nil => rfl
  | cons event rest ih =>
      rw [assigned] at ih ⊢
      rw [sent, collect_cons, collect_cons, collect_append, ih, sent]
      congr 1
      cases event with
      | handled _ _ signal => cases signal <;> rfl
      | _ => rfl

/-- What is known of the work of one run, at each place. Away from the wait no
work has been overtaken; once the end is known there, the work before it has
been accepted exactly if it was not overtaken. -/
structure Kept (trace : List Event) (pc : Pc) (shift : CourierShiftWorkflow) : Prop where
  accounts : Accounted trace pc shift
  drained : DrainedAt pc shift
  known : shift.ended = true ↔ .endShift ∈ sent trace
  going : shift.ended = false → overtakings trace = []
  draining : ¬ Waits pc → overtakings trace = []
  settled : Waits pc → shift.ended = true →
    (workBefore (sent trace) <+: accepted trace ↔ overtakings trace = [])

/-- An activation of the chain has seen a history past the threshold. -/
def Overlong (trace : List Event) : Prop := ∃ history ∈ histories trace, history > maxHistory

section Steps

attribute [local simp] sent sentSignal accepted acceptedOrder overtakings overtaken histories
  historyLength

variable {trace events : List Event} {pc next : Pc} {self self' : CourierShiftWorkflow}
  {history : Nat} {commands : List Command}

theorem Overlong.append (long : Overlong trace) (events : List Event) :
    Overlong (trace ++ events) := by
  obtain ⟨history, mem, past⟩ := long
  refine ⟨history, ?_, past⟩
  rw [histories, collect_append]
  exact List.mem_append_left _ mem

/-- In the wait everything handled is accepted or queued. -/
theorem Kept.assigned_eq (kept : Kept trace pc self) (waits : Waits pc) :
    assigned trace = accepted trace ++ self.assignments := by
  have accounts : assigned trace = accepted trace ++ inHand pc ++ self.assignments := kept.accounts
  cases pc with
  | drain | awaitAccept _ | accepted | awaitReport | checkHistory => exact waits.elim
  | _ => simpa [inHand] using accounts

/-- The end of a shift overtakes what is queued where it is handled. -/
theorem Kept.ends (kept : Kept trace pc self) (resting : Resting pc) (waits : Waits pc)
    (going : self.ended = false) :
    workBefore (sent (trace ++ [.handled pc self .endShift])) <+:
        accepted (trace ++ [.handled pc self .endShift]) ↔
      overtakings (trace ++ [.handled pc self .endShift]) = [] := by
  have fresh : .endShift ∉ sent trace := by
    rw [← kept.known, going]
    simp
  have before : workBefore (sent (trace ++ [.handled pc self .endShift])) =
      accepted trace ++ self.assignments := by
    have same : sent (trace ++ [.handled pc self .endShift]) = sent trace ++ [.endShift] := by simp
    rw [same, workBefore_append_of_not_mem fresh, ← assigned_eq_work, kept.assigned_eq waits]
    exact List.append_nil _
  have same : accepted (trace ++ [.handled pc self .endShift]) = accepted trace ++ [] := by simp
  rw [before, same, List.prefix_append_right_inj, List.prefix_nil]
  have none := kept.going going
  simp only [overtakings] at none
  cases pc with
  | checkEnd => exact resting.elim
  | drain | awaitAccept _ | accepted | awaitReport | checkHistory => exact waits.elim
  | entry _ | wait => by_cases empty : self.assignments = [] <;> simp [none, going, empty]

/-- Only the first end of the shift, handled in the wait, overtakes anything. -/
theorem overtaken_eq_none {signal : Signal}
    (quiet : signal ≠ .endShift ∨ self.ended = true ∨ ¬ Waits pc) :
    overtaken (.handled pc self signal) = none := by
  cases signal with
  | locationPing | assignment _ => cases pc <;> rfl
  | endShift =>
      rcases quiet with other | ended | draining
      · exact absurd rfl other
      · cases pc <;> simp [ended]
      · cases pc with
        | entry _ | wait | checkEnd => exact absurd trivial draining
        | _ => rfl

theorem Kept.handled (kept : Kept trace pc self) (resting : Resting pc) (signal : Signal) :
    Kept (trace ++ [.handled pc self signal]) pc (self.handle signal) := by
  have quiet (quiet : signal ≠ .endShift ∨ self.ended = true ∨ ¬ Waits pc) :
      overtakings (trace ++ [.handled pc self signal]) = overtakings trace := by
    rw [overtakings, collect_append, collect_cons, overtaken_eq_none quiet]
    exact List.append_nil _
  have known := kept.known
  refine ⟨kept.accounts.handled signal, .of_resting resting, ?_, ?_, ?_, ?_⟩
  · simp only [sent] at known
    cases signal with
    | endShift => simp [CourierShiftWorkflow.handle]
    | locationPing | assignment _ => simp [CourierShiftWorkflow.handle, known]
  · intro going
    cases signal with
    | endShift => cases going
    | locationPing | assignment _ =>
        rw [quiet (Or.inl (by simp))]
        exact kept.going going
  · intro draining
    rw [quiet (Or.inr (Or.inr draining))]
    exact kept.draining draining
  · intro waits ended'
    cases ended : self.ended with
    | true =>
        -- The work before the end was settled when it was first handled.
        have same : workBefore (sent (trace ++ [.handled pc self signal])) =
            workBefore (sent trace) := by
          rw [sent, collect_append]
          exact workBefore_append_of_mem (known.mp ended) _
        rw [same, quiet (Or.inr (Or.inl ended))]
        simpa using kept.settled waits ended
    | false =>
        cases signal with
        | endShift => exact kept.ends resting waits ended
        | locationPing | assignment _ =>
            have going : self.ended = true := ended'
            simp [ended] at going

/-- Events which handle no signal and accept nothing keep what is known. -/
theorem Kept.silent (kept : Kept trace pc self) (accounts : Accounted (trace ++ events) pc self)
    (unsent : sent events = []) (unaccepted : accepted events = [])
    (quiet : overtakings events = []) : Kept (trace ++ events) pc self := by
  have sentSame : sent (trace ++ events) = sent trace := collect_append_of_nil unsent trace
  have acceptedSame : accepted (trace ++ events) = accepted trace :=
    collect_append_of_nil unaccepted trace
  have overtakenSame : overtakings (trace ++ events) = overtakings trace :=
    collect_append_of_nil quiet trace
  refine ⟨accounts, kept.drained, ?_, ?_, ?_, ?_⟩
  · rw [sentSame]
    exact kept.known
  · rw [overtakenSame]
    exact kept.going
  · rw [overtakenSame]
    exact kept.draining
  · rw [sentSame, acceptedSame, overtakenSame]
    exact kept.settled

theorem Kept.advanced (kept : Kept trace pc self) :
    Kept (trace ++ [.advanced pc self history]) pc self :=
  kept.silent kept.accounts.advanced rfl rfl rfl

/-- A resolved await goes on within a drain. -/
theorem Kept.resumed (kept : Kept trace pc self) {resolution : Resolution}
    (resumed : CourierShiftWorkflow.resume resolution pc self = some next) :
    Kept (trace ++ [.resolved pc resolution]) next self := by
  have resumes := resumes_of_resume resumed
  have sentSame : sent (trace ++ [.resolved pc resolution]) = sent trace := by simp
  have quiet : overtakings (trace ++ [.resolved pc resolution]) = overtakings trace := by simp
  have within : ¬ Waits pc ∧ ¬ Waits next := by
    cases resumes with
    | accepted => exact ⟨id, id⟩
    | reported => exact ⟨id, id⟩
  refine ⟨kept.accounts.resumed resumed, .of_resumes resumes, ?_, ?_, ?_, ?_⟩
  · rw [sentSame]
    exact kept.known
  · rw [quiet]
    exact kept.going
  · intro _
    rw [quiet]
    exact kept.draining within.1
  · intro waits
    exact absurd waits within.2

theorem Kept.proceeds (kept : Kept trace pc self)
    (stepped : Proceeds history pc self next self' commands) :
    Kept (trace ++ commands.map .issued) next self' := by
  have sentSame : sent (trace ++ commands.map .issued) = sent trace :=
    collect_append_issued (fun _ => rfl) trace commands
  have acceptedSame : accepted (trace ++ commands.map .issued) = accepted trace :=
    collect_append_issued (fun _ => rfl) trace commands
  have quiet : overtakings (trace ++ commands.map .issued) = overtakings trace :=
    collect_append_issued (fun _ => rfl) trace commands
  have same : self'.ended = self.ended := by cases stepped <;> rfl
  refine ⟨kept.accounts.proceeds stepped, .of_proceeds stepped, ?_, ?_, ?_, ?_⟩
  · rw [sentSame, same]
    exact kept.known
  · rw [quiet, same]
    exact kept.going
  · intro draining
    rw [quiet]
    cases stepped with
    | goesOn going => exact kept.going going
    | drained _ | accepts _ | reports => exact kept.draining id
    | entry | wakes _ | stays _ => exact absurd trivial draining
  · intro waits
    rw [sentSame, acceptedSame, quiet, same]
    cases stepped with
    | entry | wakes _ => exact kept.settled trivial
    | goesOn _ | drained _ | accepts _ | reports => exact waits.elim
    | stays _ =>
        -- The drain has left nothing, so everything handled is accepted.
        have accounts : assigned trace = accepted trace ++ [] ++ self.assignments := kept.accounts
        rw [kept.drained rfl, List.append_nil, List.append_nil, assigned_eq_work] at accounts
        intro _
        refine ⟨fun _ => kept.draining id, fun _ => ?_⟩
        rw [← accounts]
        exact workBefore_within _

end Steps

/-- The work of a shift is kept track of as long as its history is short. -/
def workKept (start : CourierState) : courierWorkflow.Invariant start where
  Idle trace pc self _ := Overlong trace ∨ (Resting pc ∧ Kept trace pc self)
  Busy trace pc self history := Overlong trace ∨ (history ≤ maxHistory ∧ Kept trace pc self)
  initial := by
    refine Or.inr ⟨trivial, rfl, .of_resting trivial, ?_, fun _ => rfl, fun _ => rfl, ?_⟩
    · simp [courierWorkflow, sent]
    · intro _ ended
      cases ended
  handled signal holds :=
    holds.imp (fun long => long.append _) fun ⟨resting, kept⟩ =>
      ⟨resting, kept.handled resting signal⟩
  advanced {trace pc self _ history} holds _ := by
    rcases holds with long | ⟨_, kept⟩
    · exact Or.inl (long.append _)
    · rcases Nat.lt_or_ge maxHistory history with past | short
      · exact Or.inl ⟨history, by simp [histories, historyLength], past⟩
      · exact Or.inr ⟨short, kept.advanced⟩
  resolved {trace pc self _ history resolution next} holds _ resumed := by
    rcases holds with long | ⟨_, kept⟩
    · exact Or.inl ((long.append _).append _)
    · rcases Nat.lt_or_ge maxHistory history with past | short
      · exact Or.inl ⟨history, by simp [histories, historyLength], past⟩
      · exact Or.inr ⟨short, (kept.resumed resumed).advanced⟩
  proceeds holds stepped :=
    holds.imp (fun long => long.append _) fun ⟨short, kept⟩ =>
      ⟨short, kept.proceeds (proceeds_of_step stepped)⟩
  suspends holds suspended := by
    refine holds.imp_right fun ⟨_, kept⟩ => ⟨?_, kept⟩
    rcases suspends_of_step suspended with ⟨rfl, _⟩ | ⟨_, rfl⟩ | rfl
    all_goals trivial
  continues holds stepped := by
    rcases holds with long | ⟨short, _⟩
    · exact Or.inl (long.append _)
    · obtain ⟨_, past, _⟩ := continues_of_step stepped
      omega

section Returns

variable {start : CourierState} {trace : List Event} {result : String} {sequence : List Signal}

/-- A run which returns has accepted the work before its end exactly if none was
overtaken. -/
theorem work_accepted_iff (chain : courierWorkflow.Chain start trace (.completed result))
    (short : ∀ history ∈ histories trace, history ≤ maxHistory)
    (delivered : sent trace <+: sequence) :
    workBefore sequence <+: accepted trace ↔ overtakings trace = [] := by
  obtain ⟨before, pc, self, history, rfl, holds, stepped⟩ := (workKept start).of_completed chain
  obtain ⟨rfl, ended, _⟩ := completes_of_step stepped
  have sentSame : sent (before ++ [.completed result]) = sent before := by simp [sent, sentSignal]
  have acceptedSame : accepted (before ++ [.completed result]) = accepted before := by
    simp [accepted, acceptedOrder]
  have quiet : overtakings (before ++ [.completed result]) = overtakings before := by
    simp [overtakings, overtaken]
  rcases holds with ⟨long, mem, past⟩ | ⟨_, kept⟩
  · have within := short long (by simpa [histories, historyLength] using mem)
    omega
  · rw [sentSame] at delivered
    rw [workBefore_of_delivered delivered (kept.known.mp ended), acceptedSame, quiet]
    exact kept.settled trivial ended

end Returns

/-- Of two runs which the same sequence of signals reaches in any two groupings,
and which return, both accept all work that precedes the end of the shift if and
only if in neither the end overtakes any. -/
theorem work_kept_iff {start : CourierState} {sequence : List Signal} {trace trace' : List Event}
    {result result' : String} (chain : courierWorkflow.Chain start trace (.completed result))
    (chain' : courierWorkflow.Chain start trace' (.completed result'))
    (delivered : sent trace <+: sequence) (delivered' : sent trace' <+: sequence)
    (short : ∀ history ∈ histories trace, history ≤ maxHistory)
    (short' : ∀ history ∈ histories trace', history ≤ maxHistory) :
    (workBefore sequence <+: accepted trace ∧ workBefore sequence <+: accepted trace') ↔
      (overtakings trace = [] ∧ overtakings trace' = []) := by
  rw [work_accepted_iff chain short delivered, work_accepted_iff chain' short' delivered']

/-- The end reaches one run while it drains, and the other one when it waits again. -/
theorem work_kept_of_two :
    ∃ trace trace', courierWorkflow.Chain { courierId := "7-ab", region := "us-west" } trace
        (.completed "shift-ended:7-ab:1") ∧
      courierWorkflow.Chain { courierId := "7-ab", region := "us-west" } trace'
        (.completed "shift-ended:7-ab:1") ∧
      workBefore [.assignment "o1", .endShift] <+: accepted trace ∧
      workBefore [.assignment "o1", .endShift] <+: accepted trace' := by
  have chain := Workflow.Chain.of_replay courierWorkflow 10
    { courierId := "7-ab", region := "us-west" }
    [⟨[], none, 3⟩, ⟨[.assignment "o1"], none, 7⟩,
      ⟨[.endShift], some .activityCompleted, 13⟩, ⟨[], some .signalSent, 18⟩] rfl
  have chain' := Workflow.Chain.of_replay courierWorkflow 10
    { courierId := "7-ab", region := "us-west" }
    [⟨[.assignment "o1"], none, 4⟩, ⟨[], some .activityCompleted, 10⟩,
      ⟨[], some .signalFailed, 15⟩, ⟨[.endShift], none, 19⟩] rfl
  exact ⟨_, _, chain, chain', (work_kept_iff chain chain' (List.prefix_refl _)
    (List.prefix_refl _) (by decide) (by decide)).mpr ⟨rfl, rfl⟩⟩

/-- An assignment and the end of the shift sent one after the other: in two
activations the assignment is accepted, in one it is dropped. -/
theorem work_dropped_in_one_batch :
    ∃ trace trace', courierWorkflow.Chain { courierId := "7-ab", region := "us-west" } trace
        (.completed "shift-ended:7-ab:1") ∧
      courierWorkflow.Chain { courierId := "7-ab", region := "us-west" } trace'
        (.completed "shift-ended:7-ab:0") ∧
      sent trace = [.assignment "o1", .endShift] ∧ sent trace' = sent trace ∧
      (∀ history ∈ histories trace ++ histories trace', history ≤ maxHistory) ∧
      accepted trace = ["o1"] ∧ ¬ workBefore (sent trace) <+: accepted trace' := by
  have chain := Workflow.Chain.of_replay courierWorkflow 10
    { courierId := "7-ab", region := "us-west" }
    [⟨[], none, 3⟩, ⟨[.assignment "o1"], none, 7⟩,
      ⟨[.endShift], some .activityCompleted, 13⟩, ⟨[], some .signalSent, 18⟩] rfl
  have chain' := Workflow.Chain.of_replay courierWorkflow 10
    { courierId := "7-ab", region := "us-west" }
    [⟨[], none, 3⟩, ⟨[.assignment "o1", .endShift], none, 8⟩] rfl
  exact ⟨_, _, chain, chain', rfl, rfl, by decide, rfl, by decide⟩

end WardenDemo.Courier
