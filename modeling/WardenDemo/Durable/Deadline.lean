import WardenDemo.Durable.Finishing
import WardenDemo.Durable.Metering
import WardenDemo.Durable.Schedule

/-!
# Deadlines

A deadline says how many awaits may be resolved before a workflow issues a command of
some kind for the so-manieth time from now on. The coroutine keeps it, resolving an await
uses it up, and handlers cannot put it off.
-/

namespace WardenDemo.Durable

variable {Input Signal Obj Pc Command Result : Type}

namespace Workflow

/-- Activations in a row from a configuration on, and their trace. -/
inductive Onward (w : Workflow Input Signal Obj Pc Command Result)
    (config : Config Obj Pc Result) :
    List (Event Input Signal Obj Pc Command Result) → Config Obj Pc Result → Prop where
  | stay : Onward w config [] config
  | activate {events config' activation later config''}
      (prior : Onward w config events config')
      (activated : w.Activate activation config' later config'') :
      Onward w config (events ++ later) config''

theorem Chain.onward {w : Workflow Input Signal Obj Pc Command Result} {start : Input}
    {trace events : List (Event Input Signal Obj Pc Command Result)}
    {config config' : Config Obj Pc Result} (chain : w.Chain start trace config)
    (onward : w.Onward config events config') : w.Chain start (trace ++ events) config' := by
  induction onward with
  | stay => rwa [List.append_nil]
  | activate _ activated ih =>
      rw [← List.append_assoc]
      exact ih.activate activated

/-- What a schedule computes from a configuration goes on from it. -/
theorem Onward.of_replay (w : Workflow Input Signal Obj Pc Command Result) (fuel : Nat)
    (config : Config Obj Pc Result) (schedule : List (Activation Signal))
    {events : List (Event Input Signal Obj Pc Command Result)} {config' : Config Obj Pc Result}
    (ran : w.replayFrom fuel ([], config) schedule = some (events, config')) :
    w.Onward config events config' := by
  have along : ∀ (schedule : List (Activation Signal)) {reached final :
      List (Event Input Signal Obj Pc Command Result) × Config Obj Pc Result},
      w.Onward config reached.1 reached.2 → w.replayFrom fuel reached schedule = some final →
      w.Onward config final.1 final.2 := by
    intro schedule
    induction schedule with
    | nil =>
        rintro reached final onward ⟨rfl⟩
        exact onward
    | cons activation rest ih =>
        intro reached final onward ran
        obtain ⟨ended, activated, following⟩ := Option.bind_eq_some_iff.mp ran
        exact ih (onward.activate (.of_within activated)) following
  exact along schedule .stay ran

/-- The commands of a kind which are ahead of the one waited for, and the awaits which may
be resolved before it: between activations, and while the coroutine runs. -/
structure Deadline (w : Workflow Input Signal Obj Pc Command Result) (counts : Command → Bool)
    where
  Idle : (ahead budget : Nat) → Pc → Obj → Prop
  Busy : (ahead budget : Nat) → Pc → Obj → Prop
  handled : ∀ {ahead budget pc obj} signal, Idle ahead budget pc obj →
    Idle ahead budget pc (w.handle signal obj)
  woken : ∀ {ahead budget pc obj}, Idle ahead budget pc obj → Busy ahead budget pc obj
  resumed : ∀ {ahead budget pc obj resolution next}, Idle ahead budget pc obj →
    w.resume resolution pc obj = some next → ∃ less < budget, Busy ahead less next obj
  proceeds : ∀ {ahead budget history pc obj next obj' commands}, Busy ahead budget pc obj →
    w.step history pc obj = .proceed next obj' commands →
    ahead < commands.countP counts ∨
      ∃ fewer, ahead = commands.countP counts + fewer ∧ Busy fewer budget next obj'
  suspends : ∀ {ahead budget history pc obj}, Busy ahead budget pc obj →
    w.step history pc obj = .suspend → Idle ahead budget pc obj
  continues : ∀ {ahead budget history pc obj input commands}, Busy ahead budget pc obj →
    w.step history pc obj = .continueAsNew input commands →
    commands.countP counts = 0 ∧ Idle ahead budget (w.entry input) w.init
  returns : ∀ {ahead budget history pc obj result}, Busy ahead budget pc obj →
    w.step history pc obj ≠ .complete result
  lasts : ∀ {ahead budget history pc obj}, Busy ahead budget pc obj →
    w.step history pc obj ≠ .fail

namespace Deadline

variable {w : Workflow Input Signal Obj Pc Command Result} {counts : Command → Bool}
  (deadline : Deadline w counts)

/-- The command has been issued, or the awaits resolved so far leave room for the rest. -/
def Met (ahead budget : Nat) (events : List (Event Input Signal Obj Pc Command Result))
    (config : Config Obj Pc Result) : Prop :=
  ahead < (metered counts events).length ∨
    ∃ pc obj history fewer less, config = .running pc obj history ∧
      ahead = (metered counts events).length + fewer ∧
      (resolutions events).length + less ≤ budget ∧ deadline.Idle fewer less pc obj

section Events

variable {ahead budget history : Nat} {pc : Pc} {obj : Obj}
  {events later : List (Event Input Signal Obj Pc Command Result)} {config : Config Obj Pc Result}

theorem length_metered_append :
    (metered counts (events ++ later)).length =
      (metered counts events).length + (metered counts later).length := by
  rw [metered, collect_append, List.length_append, metered, metered]

theorem length_resolutions_append :
    (resolutions (events ++ later)).length =
      (resolutions events).length + (resolutions later).length := by
  rw [resolutions, collect_append, List.length_append, resolutions, resolutions]

/-- Events which issue some of the commands go before what meets the rest. -/
theorem Met.after {deadline : Deadline w counts} {fewer less : Nat}
    (met : deadline.Met fewer less later config)
    (issued : ahead = (metered counts events).length + fewer)
    (resolved : (resolutions events).length + less ≤ budget) :
    deadline.Met ahead budget (events ++ later) config := by
  unfold Met
  rw [length_metered_append, length_resolutions_append]
  rcases met with passed | ⟨pc, obj, history, fewest, least, rfl, count, within, idle⟩
  · exact Or.inl (by omega)
  · exact Or.inr ⟨pc, obj, history, fewest, least, rfl, by omega, by omega, idle⟩

/-- Nothing is resolved while commands are issued. -/
theorem length_resolutions_issued (commands : List Command) :
    (resolutions (commands.map .issued :
      List (Event Input Signal Obj Pc Command Result))).length = 0 := by
  rw [resolutions, collect_issued fun _ => rfl, List.length_nil]

/-- The coroutine meets a deadline up to the end of the activation. -/
theorem of_advance (busy : deadline.Busy ahead budget pc obj)
    (advance : w.Advance history pc obj events config) :
    deadline.Met ahead budget events config := by
  induction advance generalizing ahead with
  | suspend here => exact Or.inr ⟨_, _, _, ahead, budget, rfl, by simp [metered],
      by simp [resolutions], deadline.suspends busy here⟩
  | @proceed _ _ _ _ commands rest _ here _ ih =>
      rcases deadline.proceeds busy here with passed | ⟨fewer, issued, busy⟩
      · left
        rw [length_metered_append, length_metered_issued]
        omega
      · apply (ih busy).after
        · rw [length_metered_issued, issued]
        · rw [length_resolutions_issued]
          omega
  | @continueAsNew _ _ input commands here =>
      obtain ⟨none, idle⟩ := deadline.continues busy here
      refine Or.inr ⟨_, _, _, ahead, budget, rfl, ?_, ?_, idle⟩
      · rw [length_metered_append, length_metered_issued, none]
        simp [metered, meteredCommand]
      · rw [length_resolutions_append, length_resolutions_issued]
        simp [resolutions, resolution]
  | complete here => exact absurd here (deadline.returns busy)
  | fail here => exact absurd here (deadline.lasts busy)

theorem handledAll (signals : List Signal) (idle : deadline.Idle ahead budget pc obj) :
    deadline.Idle ahead budget pc (w.handleAll signals obj) := by
  induction signals generalizing obj with
  | nil => exact idle
  | cons signal rest ih => exact ih (deadline.handled signal idle)

/-- Waking uses up one await at most. -/
theorem of_wake {wake : Option Resolution} {next : Pc}
    {woken : List (Event Input Signal Obj Pc Command Result)}
    (idle : deadline.Idle ahead budget pc obj) (wakes : w.wakeAt wake pc obj = some (next, woken)) :
    ∃ less, (resolutions woken).length + less ≤ budget ∧ metered counts woken = [] ∧
      deadline.Busy ahead less next obj := by
  cases wake with
  | none =>
      simp only [wakeAt, Option.some.injEq, Prod.mk.injEq] at wakes
      obtain ⟨rfl, rfl⟩ := wakes
      exact ⟨budget, by simp [resolutions], rfl, deadline.woken idle⟩
  | some answer =>
      simp only [wakeAt, Option.map_eq_some_iff, Prod.mk.injEq] at wakes
      obtain ⟨_, resumed, rfl, rfl⟩ := wakes
      obtain ⟨less, within, busy⟩ := deadline.resumed idle resumed
      refine ⟨less, ?_, rfl, busy⟩
      simp only [resolutions, resolution, collect_cons, collect_nil, Option.toList_some,
        List.append_nil, List.length_singleton]
      omega

/-- An activation meets a deadline. -/
theorem of_activate {activation : Activation Signal} (idle : deadline.Idle ahead budget pc obj)
    (activated : w.Activate activation (.running pc obj history) events config) :
    deadline.Met ahead budget events config := by
  cases activated with
  | @mk _ _ _ next woken rest _ _ wake advance =>
      obtain ⟨less, within, none, busy⟩ :=
        deadline.of_wake (deadline.handledAll activation.signals idle) wake
      have quiet : metered counts (w.handledEvents pc obj activation.signals) = [] :=
        collect_handledEvents w (fun _ _ _ => rfl) obj
      have silent : resolutions (w.handledEvents pc obj activation.signals) = [] :=
        collect_handledEvents w (fun _ _ _ => rfl) obj
      rw [List.append_cons]
      apply (deadline.of_advance busy advance).after
      · rw [length_metered_append, length_metered_append, quiet, none]
        simp [metered, meteredCommand]
      · rw [length_resolutions_append, length_resolutions_append, silent]
        simpa [resolutions, resolution] using within

/-- A deadline is met whatever activations follow. -/
theorem of_onward (idle : deadline.Idle ahead budget pc obj)
    (onward : w.Onward (.running pc obj history) events config) :
    deadline.Met ahead budget events config := by
  induction onward with
  | stay => exact Or.inr ⟨pc, obj, history, ahead, budget, rfl, by simp [metered],
      by simp [resolutions], idle⟩
  | activate _ activated ih =>
      rcases ih with passed | ⟨pc', obj', history', fewer, less, rfl, issued, within, idle⟩
      · left
        rw [length_metered_append]
        omega
      · exact (deadline.of_activate idle activated).after issued within

end Events

end Deadline

end Workflow

end WardenDemo.Durable
