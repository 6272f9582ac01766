import WardenDemo.Durable.Invariant
import WardenDemo.Durable.Trace

/-!
# Invariants of one run

A bound on one run speaks of the events before it continues as new. Such an
invariant is kept up to that event, where it settles what holds of the run;
the runs after it add nothing.
-/

namespace WardenDemo.Durable

variable {Input Signal Obj Pc Command Result : Type}

/-- The events of the first run of a chain, up to where it continues as new. -/
def firstRun (trace : List (Event Input Signal Obj Pc Command Result)) :
    List (Event Input Signal Obj Pc Command Result) :=
  trace.takeWhile fun event => (successor event).isNone

section Traces

variable {trace : List (Event Input Signal Obj Pc Command Result)}

theorem stays_of_single (single : successors trace = []) :
    ∀ event ∈ trace, (successor event).isNone = true := by
  intro event mem
  rw [successors, collect, List.filterMap_eq_nil_iff] at single
  simp [single event mem]

theorem firstRun_append_of_single (single : successors trace = [])
    (events : List (Event Input Signal Obj Pc Command Result)) :
    firstRun (trace ++ events) = trace ++ firstRun events :=
  List.takeWhile_append_of_pos (stays_of_single single)

theorem firstRun_of_single (single : successors trace = []) : firstRun trace = trace := by
  simpa [firstRun] using firstRun_append_of_single single []

theorem firstRun_append_of_succeeded (succeeded : successors trace ≠ [])
    (events : List (Event Input Signal Obj Pc Command Result)) :
    firstRun (trace ++ events) = firstRun trace := by
  induction trace with
  | nil => exact absurd rfl succeeded
  | cons event rest ih =>
      cases here : successor event with
      | some input => simp [firstRun, here]
      | none =>
          have later : successors rest ≠ [] := by simpa [successors, here] using succeeded
          have same := ih later
          unfold firstRun at same ⊢
          simp [here, same]

@[simp] theorem firstRun_continuedAsNew (input : Input) :
    firstRun ([.continuedAsNew input] : List (Event Input Signal Obj Pc Command Result)) = [] :=
  rfl

theorem successors_issued (commands : List Command) :
    successors (commands.map .issued :
      List (Event Input Signal Obj Pc Command Result)) = [] :=
  collect_issued (fun _ => rfl) commands

end Traces

namespace Workflow

/-- An invariant of the first run of the chains of `w` from `start`, with what
it `Settled` when the run continued as new. -/
structure RunInvariant (w : Workflow Input Signal Obj Pc Command Result) (start : Input) extends
    Upkeep w start where
  Settled : List (Event Input Signal Obj Pc Command Result) → Prop
  continues : ∀ {trace pc obj history input commands}, Busy trace pc obj history →
    w.step history pc obj = .continueAsNew input commands →
    Settled (trace ++ commands.map .issued)

namespace RunInvariant

variable {w : Workflow Input Signal Obj Pc Command Result} {start : Input}
variable (inv : RunInvariant w start)

/-- The first run is going on and `holds`, or it is over and settled. -/
def OrSettled (trace : List (Event Input Signal Obj Pc Command Result)) (holds : Prop) : Prop :=
  (successors trace = [] ∧ holds) ∨ (successors trace ≠ [] ∧ inv.Settled (firstRun trace))

variable {inv} in
/-- Events which start no run keep the alternative. -/
theorem OrSettled.extend {trace events : List (Event Input Signal Obj Pc Command Result)}
    {holds holds' : Prop} (before : inv.OrSettled trace holds)
    (single : successors events = []) (keeps : holds → holds') :
    inv.OrSettled (trace ++ events) holds' := by
  rcases before with ⟨first, held⟩ | ⟨succeeded, settled⟩
  · exact Or.inl ⟨collect_append_eq_nil_iff.mpr ⟨first, single⟩, keeps held⟩
  · refine Or.inr ⟨collect_append_ne_nil succeeded events, ?_⟩
    rwa [firstRun_append_of_succeeded succeeded]

/-- An invariant of the first run is an invariant of the chain. -/
def along : Invariant w start where
  Idle trace pc obj history := inv.OrSettled trace (inv.Idle trace pc obj history)
  Busy trace pc obj history := inv.OrSettled trace (inv.Busy trace pc obj history)
  initial := Or.inl ⟨rfl, inv.initial⟩
  handled signal holds := holds.extend rfl (inv.handled signal)
  advanced holds later := holds.extend rfl fun held => inv.advanced held later
  resolved holds later resumed := by
    rw [List.append_assoc]
    refine holds.extend rfl fun held => ?_
    rw [← List.append_assoc]
    exact inv.resolved held later resumed
  proceeds holds stepped :=
    holds.extend (successors_issued _) fun held => inv.proceeds held stepped
  suspends holds suspended := by
    rcases holds with ⟨first, held⟩ | later
    · exact Or.inl ⟨first, inv.suspends held suspended⟩
    · exact Or.inr later
  continues holds stepped := by
    rcases holds with ⟨first, held⟩ | ⟨succeeded, settled⟩
    · refine Or.inr ⟨by simp [successors, successor], ?_⟩
      rw [firstRun_append_of_single first, firstRun_append_of_single (successors_issued _),
        firstRun_continuedAsNew, List.append_nil]
      exact inv.continues held stepped
    · refine Or.inr ⟨collect_append_ne_nil succeeded _, ?_⟩
      rwa [firstRun_append_of_succeeded succeeded]

/-- Between two activations the first run is going on under its invariant, or
it has settled it. -/
theorem of_running {trace : List (Event Input Signal Obj Pc Command Result)}
    {pc : Pc} {obj : Obj} {history : Nat}
    (chain : w.Chain start trace (.running pc obj history)) :
    (successors trace = [] ∧ inv.Idle trace pc obj history) ∨
      (successors trace ≠ [] ∧ inv.Settled (firstRun trace)) :=
  inv.along.of_running chain

end RunInvariant

end Workflow

end WardenDemo.Durable
