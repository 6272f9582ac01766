import WardenDemo.Durable.Invariant
import WardenDemo.Durable.Trace

/-!
# Finishing

A workflow of one run descends if its coroutine, and each answer to an await,
leads to lower program points. It then resolves no more awaits than it is high,
and comes to its end as long as its awaits are answered.
-/

namespace WardenDemo.Durable

variable {Input Signal Obj Pc Command Result : Type}

/-- A chain which is over. -/
def Config.Closed : Config Obj Pc Result → Prop
  | .running _ _ _ => False
  | .completed _ | .failed => True

/-- The await an event resolves, and how. -/
def resolution : Event Input Signal Obj Pc Command Result → Option (Pc × Resolution)
  | .resolved pc resolution => some (pc, resolution)
  | _ => none

def resolutions (trace : List (Event Input Signal Obj Pc Command Result)) :
    List (Pc × Resolution) :=
  collect resolution trace

namespace Workflow

/-- How high a program point is above the end of a run: while the coroutine is
there, and between two activations. -/
structure Descent (w : Workflow Input Signal Obj Pc Command Result) where
  idle : Pc → Nat
  busy : Pc → Obj → Nat
  woken : ∀ pc obj, busy pc obj ≤ idle pc
  resumed : ∀ {resolution pc obj next}, w.resume resolution pc obj = some next →
    busy next obj < idle pc
  descends : ∀ {history pc obj next obj' commands},
    w.step history pc obj = .proceed next obj' commands → busy next obj' < busy pc obj
  suspended : ∀ {history pc obj}, w.step history pc obj = .suspend → idle pc ≤ busy pc obj
  single : ∀ {history pc obj input commands},
    w.step history pc obj ≠ .continueAsNew input commands

namespace Descent

variable {w : Workflow Input Signal Obj Pc Command Result} (descent : Descent w)

/-- Each resolution is paid for by the height a run has come down. -/
def paid (start : Input) : Invariant w start where
  Idle trace pc _ _ := (resolutions trace).length + descent.idle pc ≤ descent.idle (w.entry start)
  Busy trace pc obj _ :=
    (resolutions trace).length + descent.busy pc obj ≤ descent.idle (w.entry start)
  initial := by simp [resolutions]
  handled signal holds := by simpa [resolutions, resolution] using holds
  advanced {_ pc obj _ _} holds _ := by
    have below := descent.woken pc obj
    simp only [resolutions, collect_append, collect_cons, collect_nil, resolution] at holds ⊢
    simp
    omega
  resolved holds _ resumed := by
    have below := descent.resumed resumed
    simp only [resolutions] at holds
    simp [resolutions, resolution]
    omega
  proceeds holds stepped := by
    have below := descent.descends stepped
    rw [resolutions, collect_append_issued fun _ => rfl]
    rw [resolutions] at holds
    omega
  suspends holds suspended := by
    have same := descent.suspended suspended
    omega
  continues _ stepped := absurd stepped descent.single

/-- A run resolves no more awaits than it is high. -/
theorem resolutions_le {start : Input}
    {trace : List (Event Input Signal Obj Pc Command Result)} {config : Config Obj Pc Result}
    (chain : w.Chain start trace config) :
    (resolutions trace).length ≤ descent.idle (w.entry start) := by
  cases config with
  | running pc obj history =>
      have paid := (descent.paid start).of_running chain
      exact Nat.le_of_add_right_le paid
  | completed result =>
      obtain ⟨before, _, _, _, rfl, paid, _⟩ := (descent.paid start).of_completed chain
      have count : resolutions (before ++ [.completed result]) = resolutions before := by
        simp [resolutions, resolution]
      rw [count]
      exact Nat.le_of_add_right_le paid
  | failed =>
      obtain ⟨before, _, _, _, rfl, paid, _⟩ := (descent.paid start).of_chain chain
      have count : resolutions (before ++ [.failed]) = resolutions before := by
        simp [resolutions, resolution]
      rw [count]
      exact Nat.le_of_add_right_le paid

/-- Closed, or suspended no higher than `height`. -/
def RestsBelow (height : Nat) : Config Obj Pc Result → Prop
  | .running pc obj history => w.step history pc obj = .suspend ∧ descent.idle pc ≤ height
  | .completed _ | .failed => True

/-- The coroutine comes to rest from wherever it is. -/
theorem comes_to_rest (history : Nat) (pc : Pc) (obj : Obj) :
    ∃ events config, w.Advance history pc obj events config ∧
      resolutions events = [] ∧ descent.RestsBelow (descent.busy pc obj) config := by
  induction height : descent.busy pc obj using Nat.strongRecOn generalizing pc obj with
  | _ height ih =>
      subst height
      cases here : w.step history pc obj with
      | suspend => exact ⟨_, _, .suspend here, rfl, here, descent.suspended here⟩
      | complete result => exact ⟨_, _, .complete here, rfl, trivial⟩
      | fail => exact ⟨_, _, .fail here, rfl, trivial⟩
      | continueAsNew input commands => exact absurd here descent.single
      | proceed next obj' commands =>
          have below := descent.descends here
          obtain ⟨events, config, advance, silent, rests⟩ := ih _ below next obj' rfl
          refine ⟨_, config, .proceed here advance, ?_, ?_⟩
          · rw [resolutions] at silent ⊢
            rw [collect_append, collect_issued fun _ => rfl, silent, List.append_nil]
          · cases config with
            | running pc' obj'' history' =>
                exact ⟨rests.1, Nat.le_of_lt (Nat.lt_of_le_of_lt rests.2 below)⟩
            | completed _ | failed => trivial

section Answers

variable {Answers : Pc × Resolution → Prop} {start : Input}
  {trace : List (Event Input Signal Obj Pc Command Result)} {config : Config Obj Pc Result}

/-- A chain can be brought to its end by answers as given. -/
def Finishes (w : Workflow Input Signal Obj Pc Command Result) (start : Input)
    (Answers : Pc × Resolution → Prop)
    (trace : List (Event Input Signal Obj Pc Command Result)) : Prop :=
  ∃ events config, w.Chain start (trace ++ events) config ∧ config.Closed ∧
    ∀ answer ∈ resolutions events, Answers answer

/-- A chain finishes if it does so after some more events with such answers. -/
theorem Finishes.of_append {events : List (Event Input Signal Obj Pc Command Result)}
    (finishes : Finishes w start Answers (trace ++ events))
    (answers : ∀ answer ∈ resolutions events, Answers answer) :
    Finishes w start Answers trace := by
  obtain ⟨later, config, chain, closed, rest⟩ := finishes
  rw [List.append_assoc] at chain
  refine ⟨events ++ later, config, chain, closed, ?_⟩
  intro answer mem
  rw [resolutions, collect_append, List.mem_append] at mem
  exact mem.elim (answers answer) (rest answer)

theorem Finishes.of_closed (chain : w.Chain start trace config) (closed : config.Closed) :
    Finishes w start Answers trace := by
  refine ⟨[], config, ?_, closed, fun answer mem => absurd mem List.not_mem_nil⟩
  rwa [List.append_nil]

variable (answered : ∀ {history pc obj}, w.step history pc obj = .suspend →
  ∃ resolution next, Answers (pc, resolution) ∧ w.resume resolution pc obj = some next)

include descent answered in
/-- A run which has come to rest finishes, by induction on how high it rests. -/
theorem finishes_of_rest {height : Nat} (chain : w.Chain start trace config)
    (rests : descent.RestsBelow height config) : Finishes w start Answers trace := by
  induction height using Nat.strongRecOn generalizing trace config with
  | _ height ih =>
      cases config with
      | completed _ | failed => exact .of_closed chain trivial
      | running pc obj history =>
          obtain ⟨suspended, within⟩ := rests
          obtain ⟨resolution, next, answer, resumed⟩ := answered suspended
          obtain ⟨events, config, advance, silent, rests⟩ :=
            descent.comes_to_rest history next obj
          have below := descent.resumed resumed
          have woken : w.wakeAt (some resolution) pc obj =
              some (next, [.resolved pc resolution]) := by simp [wakeAt, resumed]
          have activated : w.Activate ⟨[], some resolution, history⟩ _ _ config :=
            .mk (Nat.le_refl _) woken advance
          have finishes := ih _ (Nat.lt_of_lt_of_le below within) (chain.activate activated) rests
          refine finishes.of_append ?_
          rw [resolutions] at silent
          simpa [resolutions, Durable.resolution, silent] using answer

include descent answered in
/-- Every run finishes, as long as its awaits are answered. -/
theorem finishes (chain : w.Chain start trace config) : Finishes w start Answers trace := by
  cases config with
  | completed _ | failed => exact .of_closed chain trivial
  | running pc obj history =>
      rcases chain.parked with ⟨input, rfl, rfl, rfl⟩ | suspended
      · -- Nothing is awaited before the first activation.
        obtain ⟨events, config, advance, silent, rests⟩ :=
          descent.comes_to_rest 0 (w.entry input) w.init
        have handled : w.handleAll [] w.init = w.init := rfl
        have activated := Activate.of_signals (Nat.le_refl 0) handled advance
        have finishes := descent.finishes_of_rest answered (chain.activate activated) rests
        refine finishes.of_append ?_
        rw [resolutions] at silent
        simp [resolutions, resolution, silent]
      · exact descent.finishes_of_rest answered chain ⟨suspended, Nat.le_refl _⟩

end Answers

end Descent

end Workflow

end WardenDemo.Durable
