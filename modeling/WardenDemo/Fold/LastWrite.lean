import Mathlib.Data.List.Induction

/-!
# Last-writer-wins registers

A register is what can be observed of a state that a log of operations rewrites,
when each operation keeps the observation, writes it, or resets it. Folding a log
leaves a register at what was written last since the last reset.
-/

namespace WardenDemo.Fold

variable {State Op α : Type}

/-- The operations of a log after its last reset. -/
def sinceReset (resets : Op → Bool) (log : List Op) : List Op :=
  (log.reverse.takeWhile fun op => !resets op).reverse

@[simp] theorem sinceReset_nil (resets : Op → Bool) : sinceReset resets [] = [] := rfl

theorem sinceReset_append_of_reset {resets : Op → Bool} {op : Op} (reset : resets op = true)
    (log : List Op) : sinceReset resets (log ++ [op]) = [] := by
  simp [sinceReset, reset]

theorem sinceReset_append_of_kept {resets : Op → Bool} {op : Op} (kept : resets op = false)
    (log : List Op) :
    sinceReset resets (log ++ [op]) = sinceReset resets log ++ [op] := by
  simp [sinceReset, kept]

theorem sinceReset_append_of_none {resets : Op → Bool} (log : List Op) {later : List Op}
    (kept : ∀ op ∈ later, resets op = false) :
    sinceReset resets (log ++ later) = sinceReset resets log ++ later := by
  induction later using List.reverseRecOn with
  | nil => simp
  | append_singleton later op ih =>
      have before := ih fun other mem => kept other (List.mem_append_left _ mem)
      have here : resets op = false := kept op (List.mem_append_right _ List.mem_cons_self)
      rw [← List.append_assoc, sinceReset_append_of_kept here, before, List.append_assoc]

/-- What the last writer of a log wrote, if anything did. -/
def lastWritten (writes : Op → Option α) (log : List Op) : Option α :=
  (log.filterMap writes).getLast?

theorem lastWritten_map {β : Type} (writes : Op → Option α) (f : α → β) (log : List Op) :
    lastWritten (fun op => (writes op).map f) log = (lastWritten writes log).map f := by
  rw [lastWritten, ← List.map_filterMap, List.getLast?_map]
  rfl

theorem lastWritten_eq_none {writes : Op → Option α} {log : List Op} :
    lastWritten writes log = none ↔ ∀ op ∈ log, writes op = none := by
  rw [lastWritten, List.getLast?_eq_none_iff, List.filterMap_eq_nil_iff]

theorem exists_of_lastWritten {writes : Op → Option α} {log : List Op} {value : α}
    (written : lastWritten writes log = some value) : ∃ op ∈ log, writes op = some value :=
  List.mem_filterMap.mp (List.mem_of_getLast? written)

theorem lastWritten_append_singleton (writes : Op → Option α) (log : List Op) (op : Op) :
    lastWritten writes (log ++ [op]) = (writes op).or (lastWritten writes log) := by
  cases written : writes op <;> simp [lastWritten, written]

theorem lastWritten_append (writes : Op → Option α) (log later : List Op) :
    lastWritten writes (log ++ later) =
      (lastWritten writes later).or (lastWritten writes log) := by
  rw [lastWritten, List.filterMap_append, List.getLast?_append]
  rfl

theorem lastWritten_of_map {Input : Type} (writes : Op → Option α) (f : Input → Op)
    (log : List Input) :
    lastWritten writes (log.map f) = lastWritten (fun input => writes (f input)) log := by
  rw [lastWritten, List.filterMap_map]
  rfl

/-- Where the last operation of a kind writes, it is the last of its kind to. -/
theorem lastWritten_bind {β : Type} {kind : Op → Option β} {writes : β → Option α}
    {log : List Op} {last : β} {value : α} (latest : lastWritten kind log = some last)
    (wrote : writes last = some value) :
    lastWritten (fun op => (kind op).bind writes) log = some value := by
  induction log using List.reverseRecOn with
  | nil => cases latest
  | append_singleton log op ih =>
      rw [lastWritten_append_singleton] at latest ⊢
      cases found : kind op with
      | none =>
          rw [found, Option.none_or] at latest
          exact ih latest
      | some here =>
          rw [found, Option.some_or] at latest
          cases latest
          rw [Option.bind_some, wrote, Option.some_or]

/-- An observation of a state, and what each operation does to it. `Holds` is
the invariant of the states the operations are applied to. -/
structure Register (State Op α : Type) where
  apply : State → Op → State
  Holds : State → Prop
  observe : State → α
  resets : Op → Bool
  writes : Op → Option α
  initial : α
  preserved : ∀ {state} op, Holds state → Holds (apply state op)
  of_reset : ∀ {state op}, resets op = true → observe (apply state op) = initial
  of_written : ∀ {state op value}, Holds state → resets op = false →
    writes op = some value → observe (apply state op) = value
  of_unwritten : ∀ {state op}, Holds state → resets op = false → writes op = none →
    observe (apply state op) = observe state

namespace Register

variable (register : Register State Op α)

/-- The state a log leads to. -/
def replay (state : State) (log : List Op) : State := log.foldl register.apply state

theorem holds_replay {state : State} (holds : register.Holds state) (log : List Op) :
    register.Holds (register.replay state log) := by
  induction log generalizing state with
  | nil => exact holds
  | cons op rest ih => exact ih (register.preserved op holds)

theorem replay_append (state : State) (log : List Op) (op : Op) :
    register.replay state (log ++ [op]) = register.apply (register.replay state log) op := by
  simp [replay]

/-- A register holds what its last writer since the last reset wrote. -/
theorem observe_replay {state : State} (holds : register.Holds state)
    (fresh : register.observe state = register.initial) (log : List Op) :
    register.observe (register.replay state log) =
      (lastWritten register.writes (sinceReset register.resets log)).getD register.initial := by
  -- The last operation of the log decides, or leaves it to the ones before.
  induction log using List.reverseRecOn with
  | nil => exact fresh
  | append_singleton log op ih =>
      have before := register.holds_replay holds log
      rw [replay_append]
      cases reset : register.resets op with
      | true =>
          rw [sinceReset_append_of_reset reset, register.of_reset reset]
          rfl
      | false =>
          rw [sinceReset_append_of_kept reset]
          cases written : register.writes op with
          | none =>
              rw [register.of_unwritten before reset written, ih]
              simp [lastWritten, written]
          | some value =>
              rw [register.of_written before reset written]
              simp [lastWritten, written]

end Register

end WardenDemo.Fold
