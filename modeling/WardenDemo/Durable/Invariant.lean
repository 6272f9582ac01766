import WardenDemo.Durable.Workflow

/-!
# Invariants of chains

An invariant of a durable workflow relates the trace of a chain to the run it is
in. It has two faces. `Idle` holds between activations and while signals are
being handled; `Busy` holds while the coroutine runs. Handlers only have to keep
the first and program points only the second, so a condition the coroutine
re-establishes before it suspends need not survive a handler in mid flight.
-/

namespace WardenDemo.Durable

variable {Input Signal Obj Pc Command Result : Type}

namespace Workflow

/-- What holds at the start of a chain of `w` and is kept within each run. -/
structure Upkeep (w : Workflow Input Signal Obj Pc Command Result) (start : Input) where
  Idle : List (Event Input Signal Obj Pc Command Result) → Pc → Obj → Nat → Prop
  Busy : List (Event Input Signal Obj Pc Command Result) → Pc → Obj → Nat → Prop
  initial : Idle [] (w.entry start) w.init 0
  handled : ∀ {trace pc obj history} signal, Idle trace pc obj history →
    Idle (trace ++ [.handled pc obj signal]) pc (w.handle signal obj) history
  advanced : ∀ {trace pc obj history history'}, Idle trace pc obj history →
    history ≤ history' → Busy (trace ++ [.advanced pc obj history']) pc obj history'
  resolved : ∀ {trace pc obj history history' resolution next}, Idle trace pc obj history →
    history ≤ history' → w.resume resolution pc obj = some next →
    Busy (trace ++ [.resolved pc resolution] ++ [.advanced next obj history'])
      next obj history'
  proceeds : ∀ {trace pc obj history next obj' commands}, Busy trace pc obj history →
    w.step history pc obj = .proceed next obj' commands →
    Busy (trace ++ commands.map .issued) next obj' history
  suspends : ∀ {trace pc obj history}, Busy trace pc obj history →
    w.step history pc obj = .suspend → Idle trace pc obj history

/-- The program points the coroutine is at within an activation, with the trace
up to there. -/
inductive Visits (w : Workflow Input Signal Obj Pc Command Result) (start : Input) :
    List (Event Input Signal Obj Pc Command Result) → Pc → Obj → Nat → Prop where
  | wake {trace pc obj history next woken} (activation : Activation Signal)
      (chain : w.Chain start trace (.running pc obj history))
      (later : history ≤ activation.history)
      (wake : w.wakeAt activation.wake pc (w.handleAll activation.signals obj) =
        some (next, woken)) :
      Visits w start (trace ++ w.handledEvents pc obj activation.signals ++ woken ++
          [.advanced next (w.handleAll activation.signals obj) activation.history])
        next (w.handleAll activation.signals obj) activation.history
  | proceed {trace pc obj history next obj' commands}
      (prior : Visits w start trace pc obj history)
      (here : w.step history pc obj = .proceed next obj' commands) :
      Visits w start (trace ++ commands.map .issued) next obj' history

/-- An inductive invariant of the chains of `w` from `start`. -/
structure Invariant (w : Workflow Input Signal Obj Pc Command Result) (start : Input) extends
    Upkeep w start where
  continues : ∀ {trace pc obj history input commands}, Busy trace pc obj history →
    w.step history pc obj = .continueAsNew input commands →
    Idle (trace ++ (commands.map .issued ++ [.continuedAsNew input])) (w.entry input) w.init 0

namespace Invariant

variable {w : Workflow Input Signal Obj Pc Command Result} {start : Input}
variable (inv : Invariant w start)

/-- A whole batch of handlers keeps what one handler keeps. -/
theorem handledAll {trace : List (Event Input Signal Obj Pc Command Result)}
    {pc : Pc} {obj : Obj} {history : Nat} (signals : List Signal)
    (holds : inv.Idle trace pc obj history) :
    inv.Idle (trace ++ w.handledEvents pc obj signals) pc (w.handleAll signals obj)
      history := by
  induction signals generalizing trace obj with
  | nil => simpa [handledEvents] using holds
  | cons signal rest ih =>
      simpa [handledEvents, List.append_assoc] using ih (inv.handled signal holds)

/-- Where an invariant stands once a configuration has been reached: it holds
of a run which is left running, and of a closed one at its last program point. -/
def Reached (trace : List (Event Input Signal Obj Pc Command Result)) :
    Config Obj Pc Result → Prop
  | .running pc obj history => inv.Idle trace pc obj history
  | .completed result => ∃ before pc obj history, trace = before ++ [.completed result] ∧
      inv.Busy before pc obj history ∧ w.step history pc obj = .complete result
  | .failed => ∃ before pc obj history, trace = before ++ [.failed] ∧
      inv.Busy before pc obj history ∧ w.step history pc obj = .fail

/-- The coroutine keeps the invariant up to the end of the activation. -/
theorem of_advance {history : Nat} {pc : Pc} {obj : Obj}
    {trace events : List (Event Input Signal Obj Pc Command Result)}
    {config : Config Obj Pc Result} (holds : inv.Busy trace pc obj history)
    (advance : w.Advance history pc obj events config) :
    inv.Reached (trace ++ events) config := by
  induction advance generalizing trace with
  | suspend here => simpa [Reached] using inv.suspends holds here
  | proceed here _ ih =>
      rw [← List.append_assoc]
      exact ih (inv.proceeds holds here)
  | continueAsNew here => exact inv.continues holds here
  | complete here => exact ⟨_, _, _, _, rfl, holds, here⟩
  | fail here => exact ⟨_, _, _, _, rfl, holds, here⟩

/-- Handling the signals of an activation, and resolving its await, hands the
invariant to the coroutine. -/
theorem of_wake {activation : Activation Signal} {pc next : Pc} {obj : Obj} {history : Nat}
    {trace woken : List (Event Input Signal Obj Pc Command Result)}
    (holds : inv.Idle trace pc obj history) (later : history ≤ activation.history)
    (wake : w.wakeAt activation.wake pc (w.handleAll activation.signals obj) =
      some (next, woken)) :
    inv.Busy (trace ++ w.handledEvents pc obj activation.signals ++ woken ++
        [.advanced next (w.handleAll activation.signals obj) activation.history])
      next (w.handleAll activation.signals obj) activation.history := by
  have handled := inv.handledAll activation.signals holds
  cases woke : activation.wake with
  | none =>
      simp only [wakeAt, woke, Option.some.injEq, Prod.mk.injEq] at wake
      obtain ⟨rfl, rfl⟩ := wake
      simpa using inv.advanced handled later
  | some resolution =>
      simp only [wakeAt, woke, Option.map_eq_some_iff, Prod.mk.injEq] at wake
      obtain ⟨_, resumed, rfl, rfl⟩ := wake
      exact inv.resolved handled later resumed

/-- One activation keeps the invariant. -/
theorem of_activate {activation : Activation Signal} {pc : Pc} {obj : Obj} {history : Nat}
    {trace events : List (Event Input Signal Obj Pc Command Result)}
    {config : Config Obj Pc Result} (holds : inv.Idle trace pc obj history)
    (activated : w.Activate activation (.running pc obj history) events config) :
    inv.Reached (trace ++ events) config := by
  cases activated with
  | mk later wake advance =>
      have busy := inv.of_wake holds later wake
      simpa [List.append_assoc] using inv.of_advance busy advance

/-- The invariant holds wherever a chain is. -/
theorem of_chain {trace : List (Event Input Signal Obj Pc Command Result)}
    {config : Config Obj Pc Result} (chain : w.Chain start trace config) :
    inv.Reached trace config := by
  induction chain with
  | start => exact inv.initial
  | @activate trace config _ _ _ _ activated ih =>
      cases config with
      | running pc obj history => exact inv.of_activate ih activated
      | completed _ => cases activated
      | failed => cases activated

/-- The invariant holds between two activations of every chain. -/
theorem of_running {trace : List (Event Input Signal Obj Pc Command Result)}
    {pc : Pc} {obj : Obj} {history : Nat}
    (chain : w.Chain start trace (.running pc obj history)) :
    inv.Idle trace pc obj history :=
  inv.of_chain chain

/-- The invariant holds at every program point an activation visits. -/
theorem of_visits {trace : List (Event Input Signal Obj Pc Command Result)}
    {pc : Pc} {obj : Obj} {history : Nat} (visited : w.Visits start trace pc obj history) :
    inv.Busy trace pc obj history := by
  induction visited with
  | wake _ chain later wake => exact inv.of_wake (inv.of_running chain) later wake
  | proceed _ here ih => exact inv.proceeds ih here

/-- The invariant holds at the program point a chain completes from. -/
theorem of_completed {trace : List (Event Input Signal Obj Pc Command Result)}
    {result : Result} (chain : w.Chain start trace (.completed result)) :
    ∃ before pc obj history, trace = before ++ [.completed result] ∧
      inv.Busy before pc obj history ∧ w.step history pc obj = .complete result :=
  inv.of_chain chain

/-- What an invariant says of a trace, and closing leaves alone, holds of every chain. -/
theorem everywhere {Holds : List (Event Input Signal Obj Pc Command Result) → Prop}
    (idle : ∀ {trace pc obj history}, inv.Idle trace pc obj history → Holds trace)
    (busy : ∀ {trace pc obj history}, inv.Busy trace pc obj history → Holds trace)
    (completed : ∀ {trace} result, Holds trace → Holds (trace ++ [.completed result]))
    (failed : ∀ {trace}, Holds trace → Holds (trace ++ [.failed]))
    {trace : List (Event Input Signal Obj Pc Command Result)}
    {config : Config Obj Pc Result} (chain : w.Chain start trace config) : Holds trace := by
  have reached := inv.of_chain chain
  cases config with
  | running pc obj history => exact idle reached
  | completed result =>
      obtain ⟨before, _, _, _, rfl, holds, _⟩ := reached
      exact completed result (busy holds)
  | failed =>
      obtain ⟨before, _, _, _, rfl, holds, _⟩ := reached
      exact failed (busy holds)

end Invariant

end Workflow

end WardenDemo.Durable
