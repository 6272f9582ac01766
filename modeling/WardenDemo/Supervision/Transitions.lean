import WardenDemo.Supervision.Supervisor

/-!
# Transitions of the supervisor

What the operation going on may do next, case by case, what may become of the
children meanwhile, and that the operation comes to an end.
-/

namespace WardenDemo.Supervision

/-- What an operation does next. Between two calls it begins the next one; within a
call it spawns, signals or waits. -/
inductive Proceeds (late : Bool) (world : World) : World → Prop where
  | idle (returned : world.Returned) : Proceeds late world world
  | unknown {queue : String} {rest : List Call} (between : world.phase = .between)
      (calls : world.calls = .start queue :: rest) (unknown : queue ∉ world.queues) :
      Proceeds late world world.raising
  | absent {queue : String} {rest : List Call} (between : world.phase = .between)
      (calls : world.calls = .start queue :: rest) (known : queue ∈ world.queues)
      (absent : world.procs.lookup queue = none) :
      Proceeds late world { world with calls := rest, phase := .spawn queue }
  | running {queue : String} {rest : List Call} {pid : Nat} (between : world.phase = .between)
      (calls : world.calls = .start queue :: rest) (known : queue ∈ world.queues)
      (found : world.procs.lookup queue = some pid)
      (alive : world.looksAlive late pid = true) :
      Proceeds late world { world.update pid (Proc.polled late) with calls := rest }
  | dead {queue : String} {rest : List Call} {pid : Nat} (between : world.phase = .between)
      (calls : world.calls = .start queue :: rest) (known : queue ∈ world.queues)
      (found : world.procs.lookup queue = some pid)
      (dead : world.looksAlive late pid = false) :
      Proceeds late world
        { world.update pid (Proc.polled late) with calls := rest, phase := .spawn queue }
  | nothing {call : Call} {queue : String} {rest : List Call}
      (between : world.phase = .between) (calls : world.calls = call :: rest)
      (kind : call = .stop queue ∨ call = .poll queue)
      (absent : world.procs.lookup queue = none) :
      Proceeds late world { world with calls := rest }
  | stops {queue : String} {rest : List Call} {pid : Nat} (between : world.phase = .between)
      (calls : world.calls = .stop queue :: rest)
      (found : world.procs.lookup queue = some pid)
      (alive : world.looksAlive late pid = true) :
      Proceeds late world
        { world.update pid (Proc.polled late) with calls := rest, phase := .terminate pid }
  | stopped {queue : String} {rest : List Call} {pid : Nat} (between : world.phase = .between)
      (calls : world.calls = .stop queue :: rest)
      (found : world.procs.lookup queue = some pid)
      (dead : world.looksAlive late pid = false) :
      Proceeds late world { world.update pid (Proc.polled late) with calls := rest }
  | polled {queue : String} {rest : List Call} {pid : Nat} (between : world.phase = .between)
      (calls : world.calls = .poll queue :: rest)
      (found : world.procs.lookup queue = some pid) :
      Proceeds late world { world.update pid (Proc.polled late) with calls := rest }
  | spawned {queue : String} (spawning : world.phase = .spawn queue) :
      Proceeds late world
        { world with
          table := world.table ++ [{ queue := queue }]
          procs := record queue world.table.length world.procs
          phase := .between }
  | failed {queue : String} (spawning : world.phase = .spawn queue) :
      Proceeds late world world.raising
  | terminated {pid : Nat} (terminating : world.phase = .terminate pid) :
      Proceeds late world { world.update pid (Proc.terminate late) with phase := .wait pid }
  | expired {pid : Nat} (waiting : world.phase = .wait pid)
      (alive : world.looksAlive late pid = true) :
      Proceeds late world { world.update pid (Proc.polled late) with phase := .kill pid }
  | waited {pid : Nat} (waiting : world.phase = .wait pid)
      (dead : world.looksAlive late pid = false) :
      Proceeds late world { world.update pid (Proc.polled late) with phase := .between }
  | killed {pid : Nat} (killing : world.phase = .kill pid) :
      Proceeds late world { world.update pid (Proc.kill late) with phase := .between }

/-- The step an operation takes is one of these. -/
theorem World.proceeds (late : Bool) (world : World) :
    Proceeds late world (world.proceed late) := by
  unfold World.proceed
  split
  · next between =>
      cases calls : world.calls with
      | nil => exact .idle ⟨between, calls⟩
      | cons call rest =>
          cases call with
          | start queue =>
              dsimp only [World.call, World.start]
              split
              · next known =>
                  cases found : world.procs.lookup queue with
                  | none => exact .absent between calls known found
                  | some pid =>
                      dsimp only
                      split
                      · next alive => exact .running between calls known found alive
                      · next dead =>
                          exact .dead between calls known found (eq_false_of_ne_true dead)
              · next unknown => exact .unknown between calls unknown
          | stop queue =>
              dsimp only [World.call, World.stop]
              cases found : world.procs.lookup queue with
              | none => exact .nothing between calls (Or.inl rfl) found
              | some pid =>
                  dsimp only
                  split
                  · next alive => exact .stops between calls found alive
                  · next dead =>
                      exact .stopped between calls found (eq_false_of_ne_true dead)
          | poll queue =>
              dsimp only [World.call, World.poll]
              cases found : world.procs.lookup queue with
              | none => exact .nothing between calls (Or.inr rfl) found
              | some pid => exact .polled between calls found
  · next queue spawning =>
      dsimp only [World.spawn]
      split
      · exact .spawned spawning
      · exact .failed spawning
  · next pid terminating => exact .terminated terminating
  · next pid waiting =>
      dsimp only [World.wait]
      cases alive : world.looksAlive late pid with
      | true => exact .expired waiting alive
      | false => exact .waited waiting alive
  · next pid killing => exact .killed killing

section Steps

variable {late : Bool} {world later : World} {queue : String}

/-- A spawn records the new child, or raises. -/
theorem Proceeds.of_spawn (step : Proceeds late world later)
    (spawning : world.phase = .spawn queue) :
    later = { world with
      table := world.table ++ [{ queue := queue }]
      procs := record queue world.table.length world.procs
      phase := .between } ∨ later = world.raising := by
  cases step with
  | spawned other =>
      cases spawning.symm.trans other
      exact Or.inl rfl
  | failed => exact Or.inr rfl
  | idle returned => cases spawning.symm.trans returned.1
  | unknown other | absent other | running other | dead other | nothing other | stops other
  | stopped other | polled other | terminated other | expired other | waited other
  | killed other => cases spawning.symm.trans other

/-- A call comes to a spawn for a known queue that has no live record. -/
theorem Proceeds.to_spawn (step : Proceeds late world later)
    (spawnsNone : ∀ other, world.phase ≠ .spawn other) (spawning : later.phase = .spawn queue) :
    queue ∈ world.queues ∧
      ∀ pid, world.procs.lookup queue = some pid → world.looksAlive late pid = false := by
  cases step with
  | absent between calls known absent =>
      cases spawning
      refine ⟨known, fun pid found => ?_⟩
      rw [absent] at found
      cases found
  | dead between calls known found dead =>
      cases spawning
      refine ⟨known, fun pid other => ?_⟩
      rw [found] at other
      cases other
      exact dead
  | idle | nothing | running | stopped | polled => exact absurd spawning (spawnsNone queue)
  | unknown | stops | spawned | failed | terminated | expired | waited | killed => cases spawning

/-- A call of `start` raises, returns, or comes to a spawn. -/
theorem Proceeds.of_start {rest : List Call} (step : Proceeds late world later)
    (between : world.phase = .between) (calls : world.calls = .start queue :: rest) :
    (queue ∉ world.queues ∧ later = world.raising) ∨
    (world.procs.lookup queue = none ∧
      later = { world with calls := rest, phase := .spawn queue }) ∨
    ∃ pid, world.procs.lookup queue = some pid ∧ queue ∈ world.queues ∧
      (world.looksAlive late pid = true ∧
          later = { world.update pid (Proc.polled late) with calls := rest } ∨
        world.looksAlive late pid = false ∧
          later = { world.update pid (Proc.polled late) with
            calls := rest
            phase := .spawn queue }) := by
  cases step with
  | unknown _ same unknown =>
      cases calls.symm.trans same
      exact Or.inl ⟨unknown, rfl⟩
  | absent _ same _ absent =>
      cases calls.symm.trans same
      exact Or.inr (Or.inl ⟨absent, rfl⟩)
  | running _ same known found alive =>
      cases calls.symm.trans same
      exact Or.inr (Or.inr ⟨_, found, known, Or.inl ⟨alive, rfl⟩⟩)
  | dead _ same known found dead =>
      cases calls.symm.trans same
      exact Or.inr (Or.inr ⟨_, found, known, Or.inr ⟨dead, rfl⟩⟩)
  | idle returned => cases calls.symm.trans returned.2
  | nothing _ same kind =>
      cases calls.symm.trans same
      rcases kind with same | same <;> cases same
  | stops _ other | stopped _ other | polled _ other => cases calls.symm.trans other
  | spawned other | failed other | terminated other | expired other | waited other
  | killed other => cases between.symm.trans other

/-- A call of `stop` returns, or comes to a signal. -/
theorem Proceeds.of_stop {rest : List Call} (step : Proceeds late world later)
    (between : world.phase = .between) (calls : world.calls = .stop queue :: rest) :
    (world.procs.lookup queue = none ∧ later = { world with calls := rest }) ∨
    ∃ pid, world.procs.lookup queue = some pid ∧
      (world.looksAlive late pid = true ∧
          later = { world.update pid (Proc.polled late) with
            calls := rest
            phase := .terminate pid } ∨
        world.looksAlive late pid = false ∧
          later = { world.update pid (Proc.polled late) with calls := rest }) := by
  cases step with
  | nothing _ same kind absent =>
      cases calls.symm.trans same
      rcases kind with same | same <;> cases same
      exact Or.inl ⟨absent, rfl⟩
  | stops _ same found alive =>
      cases calls.symm.trans same
      exact Or.inr ⟨_, found, Or.inl ⟨alive, rfl⟩⟩
  | stopped _ same found dead =>
      cases calls.symm.trans same
      exact Or.inr ⟨_, found, Or.inr ⟨dead, rfl⟩⟩
  | idle returned => cases calls.symm.trans returned.2
  | unknown _ other | absent _ other | running _ other | dead _ other | polled _ other =>
      cases calls.symm.trans other
  | spawned other | failed other | terminated other | expired other | waited other
  | killed other => cases between.symm.trans other

/-- Nothing goes on once an operation has returned. -/
theorem Proceeds.of_returned (step : Proceeds late world later) (returned : world.Returned) :
    later = world := by
  obtain ⟨between, none⟩ := returned
  cases step with
  | idle => rfl
  | unknown _ calls | absent _ calls | running _ calls | dead _ calls | nothing _ calls
  | stops _ calls | stopped _ calls | polled _ calls => cases none.symm.trans calls
  | spawned other | failed other | terminated other | expired other | waited other
  | killed other => cases between.symm.trans other

/-- An operation goes on without being called anew, and forgets no child. -/
theorem Proceeds.operation (step : Proceeds late world later) :
    later.operation = world.operation ∧ later.earlier = world.earlier ∧
      later.queues = world.queues ∧ world.table.length ≤ later.table.length := by
  cases step <;> simp [World.update, World.raising]

/-- What raises returns. -/
theorem Proceeds.unraised (step : Proceeds late world later) (busy : ¬ later.Returned) :
    later.raised = world.raised := by
  cases step with
  | unknown | failed => exact absurd ⟨rfl, rfl⟩ busy
  | _ => rfl

end Steps

/-- A child stays with its queue, never runs again, and keeps the signals it got. -/
structure Proc.Becomes (before after : Proc) : Prop where
  queue : after.queue = before.queue
  running : after.life = .running → before.life = .running
  reaped : before.life = .reaped → after.life = .reaped
  terminated : before.terminated = true → after.terminated = true
  killed : before.killed = true → after.killed = true

section Changes

variable (late : Bool) (proc : Proc)

theorem Proc.Becomes.refl : proc.Becomes proc := ⟨rfl, id, id, id, id⟩

/-- Polling first reaps a child, or leaves it to what is sent. -/
theorem becomes_told {sent : Proc} (becomes : proc.Becomes sent) :
    proc.Becomes (if proc.looksAlive late then sent else { proc with life := .reaped }) := by
  split
  · exact becomes
  · exact ⟨rfl, nofun, fun _ => rfl, id, id⟩

theorem becomes_polled : proc.Becomes (proc.polled late) :=
  becomes_told late proc (.refl proc)

theorem becomes_terminate : proc.Becomes (proc.terminate late) :=
  becomes_told late proc ⟨rfl, id, id, fun _ => rfl, id⟩

theorem becomes_kill : proc.Becomes (proc.kill late) :=
  becomes_told late proc ⟨rfl, id, id, id, fun _ => rfl⟩

theorem becomes_exit : proc.Becomes proc.exit := by
  unfold Proc.exit
  split
  · next running => exact ⟨rfl, nofun, fun reaped => (nomatch running.symm.trans reaped), id, id⟩
  · exact .refl proc
  · exact .refl proc

theorem looksAlive_of_running {proc : Proc} (running : proc.life = .running) :
    proc.looksAlive late = true := by
  rw [Proc.looksAlive, running]

theorem terminated_terminate {proc : Proc} (running : (proc.terminate late).life = .running) :
    (proc.terminate late).terminated = true := by
  have before := (becomes_terminate late proc).running running
  rw [Proc.terminate, if_pos (looksAlive_of_running late before)]

end Changes

namespace World

/-- The records stay, and each child becomes what it may. -/
structure Evolves (world later : World) : Prop where
  supervisor : later.toSupervisor = world.toSupervisor
  becomes : ∀ (pid : Nat) after, later.table[pid]? = some after →
    ∃ before, world.table[pid]? = some before ∧ before.Becomes after

section Evolution

variable {world later : World} {late : Bool}

theorem evolves_of_table (supervisor : later.toSupervisor = world.toSupervisor)
    (table : later.table = world.table) : world.Evolves later :=
  ⟨supervisor, fun _ after found => ⟨after, table ▸ found, .refl after⟩⟩

theorem evolves_of_update {change : Proc → Proc} {pid : Nat}
    (becomes : ∀ proc : Proc, proc.Becomes (change proc))
    (supervisor : later.toSupervisor = world.toSupervisor)
    (table : later.table = (world.update pid change).table) : world.Evolves later := by
  refine ⟨supervisor, fun other after found => ?_⟩
  rw [table, update, List.getElem?_modify] at found
  obtain ⟨before, here, changed⟩ := Option.map_eq_some_iff.mp found
  refine ⟨before, here, ?_⟩
  split at changed
  · exact changed ▸ becomes before
  · exact changed ▸ .refl before

theorem table_update (world : World) (pid : Nat) (change : Proc → Proc) :
    (world.update pid change).table[pid]? = world.table[pid]?.map change := by
  rw [update, List.getElem?_modify]
  simp

/-- Only a spawn goes beyond what the children become. -/
theorem Evolves.of_proceeds (step : Proceeds late world later)
    (spawnsNone : ∀ queue, world.phase ≠ .spawn queue) : world.Evolves later := by
  cases step with
  | spawned spawning => exact absurd spawning (spawnsNone _)
  | terminated => exact evolves_of_update (becomes_terminate late) rfl rfl
  | killed => exact evolves_of_update (becomes_kill late) rfl rfl
  | idle | unknown | absent | nothing | failed => exact evolves_of_table rfl rfl
  | running | dead | stops | stopped | polled | expired | waited =>
      exact evolves_of_update (becomes_polled late) rfl rfl

end Evolution

end World

/-- The most steps a call may still take. -/
def Phase.rank : Phase → Nat
  | .between => 0
  | .spawn _ => 1
  | .terminate _ => 3
  | .wait _ => 2
  | .kill _ => 1

/-- The most steps an operation may still take. -/
def World.rank (world : World) : Nat := 4 * world.calls.length + world.phase.rank

section Returning

variable {world later : World} {late : Bool}

theorem Proceeds.rank_lt (step : Proceeds late world later) (busy : ¬ world.Returned) :
    later.rank < world.rank := by
  cases step with
  | idle returned => exact absurd returned busy
  | unknown between calls | absent between calls | running between calls | dead between calls
  | nothing between calls | stops between calls | stopped between calls
  | polled between calls =>
      simp only [World.rank, World.raising, World.update, calls, between, Phase.rank,
        List.length_cons, List.length_nil]
      omega
  | spawned phase | failed phase | terminated phase | expired phase | waited phase
  | killed phase =>
      simp only [World.rank, World.raising, World.update, phase, Phase.rank, List.length_nil]
      omega

theorem returned_of_rank (spent : world.rank = 0) : world.Returned := by
  obtain ⟨none, phase⟩ := Nat.add_eq_zero_iff.mp spent
  refine ⟨?_, List.eq_nil_of_length_eq_zero (by omega)⟩
  cases between : world.phase with
  | between => rfl
  | spawn | terminate | wait | kill => simp [between, Phase.rank] at phase

def Label.proceeds : Label → Bool
  | .proceed _ => true
  | .operate _ | .exit _ => false

def Label.operates : Label → Bool
  | .operate _ => true
  | .proceed _ | .exit _ => false

/-- An operation returns, whatever it is told: once it has been given the steps it may
take, nothing of it is left. -/
theorem operation_returns (labels : List Label) (world : World)
    (alone : ∀ label ∈ labels, label.operates = false)
    (enough : world.rank ≤ labels.countP Label.proceeds) :
    (labels.foldl World.step world).Returned := by
  induction labels generalizing world with
  | nil => exact returned_of_rank (Nat.le_zero.mp enough)
  | cons label rest ih =>
      have later := fun label member => alone label (List.mem_cons_of_mem _ member)
      apply ih _ later
      cases label with
      | operate operation => cases alone _ List.mem_cons_self
      | exit pid =>
          rw [List.countP_cons_of_neg (by exact nofun)] at enough
          exact enough
      | proceed late =>
          rw [List.countP_cons_of_pos rfl] at enough
          have step := world.proceeds late
          by_cases returned : world.Returned
          · have spent : world.rank = 0 := by simp [World.rank, returned.1, returned.2, Phase.rank]
            rw [World.step, step.of_returned returned, spent]
            exact Nat.zero_le _
          · have fewer := step.rank_lt returned
            rw [World.step]
            omega

end Returning

end WardenDemo.Supervision
