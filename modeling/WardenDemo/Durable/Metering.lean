import WardenDemo.Durable.Invariant
import WardenDemo.Durable.Trace

/-!
# Metering

How many commands of one kind a run issues until it returns, when each program
point settles how many are still due.
-/

namespace WardenDemo.Durable

variable {Input Signal Obj Pc Command Result : Type}

/-- The command of the counted kind which an event issues. -/
def meteredCommand (counts : Command → Bool) :
    Event Input Signal Obj Pc Command Result → Option Command
  | .issued command => if counts command then some command else none
  | _ => none

/-- The commands of the counted kind a chain has issued. -/
def metered (counts : Command → Bool)
    (trace : List (Event Input Signal Obj Pc Command Result)) : List Command :=
  collect (meteredCommand counts) trace

theorem length_metered_issued (counts : Command → Bool) (commands : List Command) :
    (metered counts (commands.map .issued :
      List (Event Input Signal Obj Pc Command Result))).length = commands.countP counts := by
  induction commands with
  | nil => rfl
  | cons command rest ih =>
      rw [metered] at ih
      cases counted : counts command <;>
        simp [metered, meteredCommand, counted, ih]

namespace Workflow

/-- What is still due of a kind of command at each program point of a workflow of
one run. -/
structure Meter (w : Workflow Input Signal Obj Pc Command Result) (counts : Command → Bool) where
  Due : Nat → Pc → Obj → Prop
  handled : ∀ {due pc obj} signal, Due due pc obj → Due due pc (w.handle signal obj)
  resumed : ∀ {due pc obj resolution next}, w.resume resolution pc obj = some next →
    Due due pc obj → Due due next obj
  proceeds : ∀ {due history pc obj next obj' commands},
    w.step history pc obj = .proceed next obj' commands → Due due pc obj →
    ∃ rest, due = commands.countP counts + rest ∧ Due rest next obj'
  completes : ∀ {due history pc obj result},
    w.step history pc obj = .complete result → Due due pc obj → due = 0
  single : ∀ {history pc obj input commands},
    w.step history pc obj ≠ .continueAsNew input commands

namespace Meter

variable {w : Workflow Input Signal Obj Pc Command Result} {counts : Command → Bool}
  (meter : Meter w counts)

/-- What was issued and what is still due add up. -/
def balanced {total : Nat} (start : Input) (initial : meter.Due total (w.entry start) w.init) :
    Invariant w start where
  Idle trace pc obj _ := ∃ due, (metered counts trace).length + due = total ∧ meter.Due due pc obj
  Busy trace pc obj _ := ∃ due, (metered counts trace).length + due = total ∧ meter.Due due pc obj
  initial := ⟨total, Nat.zero_add total, initial⟩
  handled signal holds := by
    obtain ⟨due, sum, there⟩ := holds
    exact ⟨due, by simpa [metered, meteredCommand] using sum, meter.handled signal there⟩
  advanced holds _ := by
    obtain ⟨due, sum, there⟩ := holds
    exact ⟨due, by simpa [metered, meteredCommand] using sum, there⟩
  resolved holds _ resumed := by
    obtain ⟨due, sum, there⟩ := holds
    exact ⟨due, by simpa [metered, meteredCommand] using sum, meter.resumed resumed there⟩
  proceeds {trace _ _ _ _ _ commands} holds stepped := by
    obtain ⟨due, sum, there⟩ := holds
    obtain ⟨rest, rfl, next⟩ := meter.proceeds stepped there
    refine ⟨rest, ?_, next⟩
    have issued : (collect (meteredCommand counts) (commands.map .issued :
        List (Event Input Signal Obj Pc Command Result))).length = commands.countP counts :=
      length_metered_issued counts commands
    rw [metered] at sum ⊢
    rw [collect_append, List.length_append, issued]
    omega
  suspends holds _ := holds
  continues _ stepped := absurd stepped meter.single

/-- A run which returns has issued what was due at its start. -/
theorem length_of_completed {total : Nat} {start : Input}
    (initial : meter.Due total (w.entry start) w.init)
    {trace : List (Event Input Signal Obj Pc Command Result)} {result : Result}
    (chain : w.Chain start trace (.completed result)) :
    (metered counts trace).length = total := by
  obtain ⟨before, pc, obj, history, rfl, ⟨due, sum, there⟩, returned⟩ :=
    (meter.balanced start initial).of_completed chain
  have none := meter.completes returned there
  rw [metered] at sum ⊢
  simp only [collect_append, collect_cons, meteredCommand, collect_nil, Option.toList_none,
    List.append_nil]
  omega

end Meter

end Workflow

end WardenDemo.Durable
