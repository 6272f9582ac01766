import WardenDemo.Durable.Workflow

/-!
# Running a schedule

The relations of `Workflow` are executable: the coroutine is deterministic, so a
list of activations determines the trace and the final configuration, given
enough fuel for the longest activation. `Chain.of_replay` turns such a
computation into a chain.
-/

namespace WardenDemo.Durable

variable {Input Signal Obj Pc Command Result : Type}

namespace Workflow

variable (w : Workflow Input Signal Obj Pc Command Result)

/-- Run the coroutine for at most `fuel` program points. -/
def advanceWithin (history : Nat) : Nat → Pc → Obj →
    Option (List (Event Input Signal Obj Pc Command Result) × Config Obj Pc Result)
  | 0, _, _ => none
  | fuel + 1, pc, obj =>
      match w.step history pc obj with
      | .suspend => some ([], .running pc obj history)
      | .proceed next obj' commands =>
          (advanceWithin history fuel next obj').map fun ended =>
            (commands.map .issued ++ ended.1, ended.2)
      | .continueAsNew input commands =>
          some (commands.map .issued ++ [.continuedAsNew input], w.fresh input)
      | .complete result => some ([.completed result], .completed result)
      | .fail => some ([.failed], .failed)

/-- Run one activation, where the schedule fits the configuration. -/
def activateWithin (fuel : Nat) (activation : Activation Signal) :
    Config Obj Pc Result →
    Option (List (Event Input Signal Obj Pc Command Result) × Config Obj Pc Result)
  | .running pc obj history =>
      if history ≤ activation.history then
        let obj' := w.handleAll activation.signals obj
        (w.wakeAt activation.wake pc obj').bind fun woken =>
          (w.advanceWithin activation.history fuel woken.1 obj').map fun ended =>
            (w.handledEvents pc obj activation.signals ++ woken.2 ++
              .advanced woken.1 obj' activation.history :: ended.1, ended.2)
      else none
  | _ => none

/-- Run a schedule from a configuration reached with a trace. -/
def replayFrom (fuel : Nat) :
    List (Event Input Signal Obj Pc Command Result) × Config Obj Pc Result →
    List (Activation Signal) →
    Option (List (Event Input Signal Obj Pc Command Result) × Config Obj Pc Result)
  | reached, [] => some reached
  | reached, activation :: rest =>
      (w.activateWithin fuel activation reached.2).bind fun ended =>
        replayFrom fuel (reached.1 ++ ended.1, ended.2) rest

/-- Run a schedule from the start of a chain. -/
def replay (fuel : Nat) (start : Input) (schedule : List (Activation Signal)) :
    Option (List (Event Input Signal Obj Pc Command Result) × Config Obj Pc Result) :=
  w.replayFrom fuel ([], w.fresh start) schedule

variable {w}

theorem Advance.of_within {history fuel : Nat} {pc : Pc} {obj : Obj}
    {events : List (Event Input Signal Obj Pc Command Result)} {config : Config Obj Pc Result}
    (ran : w.advanceWithin history fuel pc obj = some (events, config)) :
    w.Advance history pc obj events config := by
  induction fuel generalizing pc obj events config with
  | zero => cases ran
  | succ fuel ih =>
      rw [advanceWithin] at ran
      split at ran
      case h_1 here =>
          cases ran
          exact .suspend here
      case h_2 next obj' commands here =>
          obtain ⟨⟨rest, ended⟩, inner, same⟩ := Option.map_eq_some_iff.mp ran
          cases same
          exact .proceed here (ih inner)
      case h_3 here =>
          cases ran
          exact .continueAsNew here
      case h_4 here =>
          cases ran
          exact .complete here
      case h_5 here =>
          cases ran
          exact .fail here

theorem Activate.of_within {fuel : Nat} {activation : Activation Signal}
    {config config' : Config Obj Pc Result}
    {events : List (Event Input Signal Obj Pc Command Result)}
    (ran : w.activateWithin fuel activation config = some (events, config')) :
    w.Activate activation config events config' := by
  cases config with
  | completed _ => cases ran
  | failed => cases ran
  | running pc obj history =>
      by_cases later : history ≤ activation.history
      · simp only [activateWithin, later, if_true, Option.bind_eq_some_iff,
          Option.map_eq_some_iff] at ran
        obtain ⟨⟨next, woken⟩, wake, ⟨rest, ended⟩, inner, same⟩ := ran
        cases same
        exact .mk later wake (.of_within inner)
      · simp only [activateWithin, later, if_false] at ran
        cases ran

theorem Chain.of_replayFrom {start : Input} {fuel : Nat}
    {reached final : List (Event Input Signal Obj Pc Command Result) × Config Obj Pc Result}
    {schedule : List (Activation Signal)} (chain : w.Chain start reached.1 reached.2)
    (ran : w.replayFrom fuel reached schedule = some final) :
    w.Chain start final.1 final.2 := by
  induction schedule generalizing reached with
  | nil =>
      cases ran
      exact chain
  | cons activation rest ih =>
      obtain ⟨ended, activated, following⟩ := Option.bind_eq_some_iff.mp ran
      exact ih (.activate chain (.of_within activated)) following

/-- What a replayed schedule computes is a chain. -/
theorem Chain.of_replay (w : Workflow Input Signal Obj Pc Command Result) (fuel : Nat)
    (start : Input) (schedule : List (Activation Signal))
    {trace : List (Event Input Signal Obj Pc Command Result)} {config : Config Obj Pc Result}
    (ran : w.replay fuel start schedule = some (trace, config)) :
    w.Chain start trace config := by
  have fresh : w.Chain start [] (w.fresh start) := .start
  exact Chain.of_replayFrom fresh ran

end Workflow

end WardenDemo.Durable
