import WardenDemo.Durable.Trace
import WardenDemo.Fold.LastWrite

/-!
# The run a chain is in

The events after the last continue-as-new are those of the run the chain is in.
What is counted over them starts again from nothing with every run.
-/

namespace WardenDemo.Durable

open Fold

variable {Input Signal Obj Pc Command Result : Type}
variable {trace : List (Event Input Signal Obj Pc Command Result)}

def startsRun (event : Event Input Signal Obj Pc Command Result) : Bool :=
  (successor event).isSome

/-- The events of the run a chain is in. -/
def currentRun (trace : List (Event Input Signal Obj Pc Command Result)) :
    List (Event Input Signal Obj Pc Command Result) :=
  sinceReset startsRun trace

@[simp] theorem currentRun_nil :
    currentRun ([] : List (Event Input Signal Obj Pc Command Result)) = [] := rfl

/-- Events which start no run belong to the one the chain is in. -/
theorem currentRun_append_of_single
    {events : List (Event Input Signal Obj Pc Command Result)}
    (single : successors events = []) :
    currentRun (trace ++ events) = currentRun trace ++ events := by
  induction events using List.reverseRecOn with
  | nil => rw [List.append_nil, List.append_nil]
  | append_singleton events event ih =>
      obtain ⟨earlier, last⟩ := collect_append_eq_nil_iff.mp single
      have kept : startsRun event = false := by
        cases here : successor event with
        | none => simp [startsRun, here]
        | some input => simp [here] at last
      have before := ih earlier
      unfold currentRun at before ⊢
      rw [← List.append_assoc, sinceReset_append_of_kept kept, before, List.append_assoc]

theorem currentRun_append_of_continued
    {events : List (Event Input Signal Obj Pc Command Result)} (input : Input) :
    currentRun (trace ++ (events ++ [.continuedAsNew input])) = [] := by
  rw [← List.append_assoc]
  exact sinceReset_append_of_reset rfl _

end WardenDemo.Durable
