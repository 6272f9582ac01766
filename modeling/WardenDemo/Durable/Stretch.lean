import Mathlib.Data.List.Count
import WardenDemo.Durable.Invariant

/-!
# Stretches

A stretch is what the coroutine goes through within one activation: the program
points from where it advances up to the one it stops at. A coroutine which has
a stretch does not spin, and the stretch says how often it came by a point.
-/

namespace WardenDemo.Durable

variable {Input Signal Obj Pc Command Result : Type}

/-- The actions at which the coroutine stops, for this activation or for good. -/
def Action.Stops : Action Input Obj Pc Command Result → Prop
  | .proceed _ _ _ => False
  | .suspend | .continueAsNew _ _ | .complete _ | .fail => True

namespace Workflow

/-- The program points visited from one of them to the last one, with the
object there. -/
inductive Stretch (w : Workflow Input Signal Obj Pc Command Result) (history : Nat) :
    Pc → Obj → List Pc → Pc → Obj → Prop where
  | stops {pc obj} (here : (w.step history pc obj).Stops) : Stretch w history pc obj [pc] pc obj
  | proceeds {pc obj next obj' commands visited last final}
      (here : w.step history pc obj = .proceed next obj' commands)
      (rest : Stretch w history next obj' visited last final) :
      Stretch w history pc obj (pc :: visited) last final

section Stretches

variable {w : Workflow Input Signal Obj Pc Command Result} {history : Nat} {pc last : Pc}
  {obj final : Obj} {visited : List Pc}

/-- A stretch ends where the coroutine stops. -/
theorem Stretch.stopped (stretch : w.Stretch history pc obj visited last final) :
    (w.step history last final).Stops := by
  induction stretch with
  | stops here => exact here
  | proceeds _ _ ih => exact ih

/-- A coroutine which has a stretch comes to the end of the activation. -/
theorem Stretch.advances (stretch : w.Stretch history pc obj visited last final) :
    ∃ events config, w.Advance history pc obj events config := by
  induction stretch with
  | @stops pc obj here =>
      cases action : w.step history pc obj with
      | proceed next obj' commands =>
          rw [action] at here
          exact here.elim
      | suspend => exact ⟨_, _, .suspend action⟩
      | continueAsNew input commands => exact ⟨_, _, .continueAsNew action⟩
      | complete result => exact ⟨_, _, .complete action⟩
      | fail => exact ⟨_, _, .fail action⟩
  | proceeds here _ ih =>
      obtain ⟨events, config, advance⟩ := ih
      exact ⟨_, config, .proceed here advance⟩

/-- The activation a stretch belongs to leads to a next configuration. -/
theorem Stretch.activates {activation : Activation Signal} {next : Pc}
    {woken : List (Event Input Signal Obj Pc Command Result)}
    (later : history ≤ activation.history)
    (wake : w.wakeAt activation.wake pc (w.handleAll activation.signals obj) =
      some (next, woken))
    (stretch : w.Stretch activation.history next (w.handleAll activation.signals obj)
      visited last final) :
    ∃ events config, w.Activate activation (.running pc obj history) events config := by
  obtain ⟨events, config, advance⟩ := stretch.advances
  exact ⟨_, config, .mk later wake advance⟩

end Stretches

section Bounds

variable [DecidableEq Pc]

/-- The coroutine stops within `length` program points, and comes by `head` at
most `heads` times on the way. -/
def StopsWithin (w : Workflow Input Signal Obj Pc Command Result) (head : Pc)
    (history length heads : Nat) (pc : Pc) (obj : Obj) : Prop :=
  ∃ visited last final, w.Stretch history pc obj visited last final ∧
    visited.length ≤ length ∧ visited.count head ≤ heads

variable {w : Workflow Input Signal Obj Pc Command Result} {head pc next : Pc} {obj obj' : Obj}
  {commands : List Command} {history length length' heads heads' : Nat}

theorem StopsWithin.mono (within : w.StopsWithin head history length heads pc obj)
    (longer : length ≤ length') (more : heads ≤ heads') :
    w.StopsWithin head history length' heads' pc obj := by
  obtain ⟨visited, last, final, stretch, short, few⟩ := within
  exact ⟨visited, last, final, stretch, Nat.le_trans short longer, Nat.le_trans few more⟩

/-- A program point adds one to what any point it goes on to needs. -/
theorem StopsWithin.of_next (other : pc ≠ head)
    (rest : ∀ {next obj' commands}, w.step history pc obj = .proceed next obj' commands →
      w.StopsWithin head history length heads next obj') :
    w.StopsWithin head history (length + 1) heads pc obj := by
  cases here : w.step history pc obj with
  | proceed next obj' commands =>
      obtain ⟨visited, last, final, stretch, short, few⟩ := rest here
      refine ⟨pc :: visited, last, final, .proceeds here stretch, Nat.succ_le_succ short, ?_⟩
      rwa [List.count_cons_of_ne other]
  | suspend | continueAsNew _ _ | complete _ | fail =>
      have stops : (w.step history pc obj).Stops := by simp [here, Action.Stops]
      refine ⟨[pc], pc, obj, .stops stops, Nat.succ_le_succ (Nat.zero_le length), ?_⟩
      rw [List.count_cons_of_ne other, List.count_nil]
      exact Nat.zero_le heads

/-- The head itself is counted as well. -/
theorem StopsWithin.of_head (here : w.step history head obj = .proceed next obj' commands)
    (rest : w.StopsWithin head history length heads next obj') :
    w.StopsWithin head history (length + 1) (heads + 1) head obj := by
  obtain ⟨visited, last, final, stretch, short, few⟩ := rest
  refine ⟨head :: visited, last, final, .proceeds here stretch, Nat.succ_le_succ short, ?_⟩
  rw [List.count_cons_self]
  exact Nat.succ_le_succ few

end Bounds

end Workflow

end WardenDemo.Durable
