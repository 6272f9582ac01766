import WardenDemo.Supervision.Orphans

/-!
# Restarting a worker

`restart` is `stop` and then `start`, and `start` spawns nothing while the recorded
child is reported alive. After a `wait` that ends, the child has been reaped. After
the timeout it is killed, and nothing waits for it to die.
-/

namespace WardenDemo.Supervision

open Fold

/-- The child recorded for a queue was spawned by the latest operation, and was sent
no signal. -/
def World.Fresh (queue : String) (world : World) : Prop :=
  ∃ (pid : Nat) (proc : Proc), world.procs.lookup queue = some pid ∧ world.earlier ≤ pid ∧
    world.table[pid]? = some proc ∧ proc.terminated = false ∧ proc.killed = false

/-- Whenever a restart returns, the worker is a fresh one. -/
def RestartsFresh (world : World) (label : Label) : Prop :=
  ∀ queue, (world.step label).operation = some (.restart queue) → queue ∈ world.queues →
    (world.step label).Returned → (world.step label).raised = false →
      (world.step label).Fresh queue

/-- The poll of the `start` in a restart does not report alive a child that was
killed. -/
def SeesDeath (world : World) : Label → Prop
  | .proceed late => ∀ queue, world.operation = some (.restart queue) → queue ∈ world.queues →
      world.phase = .between → world.calls = [.start queue] →
        ∀ (pid : Nat) proc, world.procs.lookup queue = some pid →
          world.table[pid]? = some proc → proc.killed = true → proc.looksAlive late = false
  | .operate _ | .exit _ => True

/-- The child recorded for a queue, if there is one, was reaped or at least killed. -/
def World.Gone (queue : String) (world : World) : Prop :=
  ∀ (pid : Nat) proc, world.procs.lookup queue = some pid → world.table[pid]? = some proc →
    proc.life = .reaped ∨ proc.killed = true

/-- How far a restart has come. -/
inductive Restarting (queue : String) (world : World) : Prop where
  | called (between : world.phase = .between)
      (calls : world.calls = [.stop queue, .start queue])
  | stopping {pid : Nat} (found : world.procs.lookup queue = some pid)
      (phase : world.phase = .terminate pid ∨ world.phase = .wait pid ∨ world.phase = .kill pid)
      (calls : world.calls = [.start queue])
  | stopped (between : world.phase = .between) (calls : world.calls = [.start queue])
      (gone : world.Gone queue)
  | starting (spawning : world.phase = .spawn queue) (calls : world.calls = [])
  | raised (returned : world.Returned) (raised : world.raised = true)
  | done (returned : world.Returned) (fresh : world.Fresh queue)

section Stages

variable {world later : World} {late : Bool} {queue : String} {pid : Nat}

theorem World.Gone.evolves (gone : world.Gone queue) (evolves : world.Evolves later) :
    later.Gone queue := by
  intro pid after found here
  obtain ⟨before, there, becomes⟩ := evolves.becomes pid after here
  exact (gone pid before (evolves.supervisor ▸ found) there).imp becomes.reaped becomes.killed

theorem gone_of_polled (found : world.procs.lookup queue = some pid)
    (dead : world.looksAlive late pid = false) :
    (world.update pid (Proc.polled late)).Gone queue := by
  intro other proc same here
  cases found.symm.trans same
  rw [World.table_update] at here
  obtain ⟨before, there, rfl⟩ := Option.map_eq_some_iff.mp here
  have unseen : before.looksAlive late = false := by simpa [World.looksAlive, there] using dead
  left
  rw [Proc.polled, unseen]
  rfl

theorem gone_of_killed (found : world.procs.lookup queue = some pid) :
    (world.update pid (Proc.kill late)).Gone queue := by
  intro other proc same here
  cases found.symm.trans same
  rw [World.table_update] at here
  obtain ⟨before, _, rfl⟩ := Option.map_eq_some_iff.mp here
  unfold Proc.kill
  split
  · exact Or.inr rfl
  · exact Or.inl rfl

theorem fresh_of_spawned (earlier : world.earlier ≤ world.table.length) :
    World.Fresh queue { world with
      table := world.table ++ [{ queue := queue }]
      procs := record queue world.table.length world.procs
      phase := .between } := by
  refine ⟨world.table.length, { queue := queue }, ?_, earlier, ?_, rfl, rfl⟩
  · rw [lookup_record, if_pos rfl]
  · exact List.getElem?_concat_length

theorem fresh_of_exit (fresh : world.Fresh queue) : (world.update pid Proc.exit).Fresh queue := by
  obtain ⟨recorded, proc, found, later, here, terminated, killed⟩ := fresh
  have unsignalled : proc.exit.terminated = proc.terminated ∧ proc.exit.killed = proc.killed := by
    unfold Proc.exit
    split <;> exact ⟨rfl, rfl⟩
  by_cases same : pid = recorded
  · subst same
    refine ⟨pid, proc.exit, found, later, ?_, ?_, ?_⟩
    · rw [World.table_update, here]
      rfl
    · rw [unsignalled.1, terminated]
    · rw [unsignalled.2, killed]
  · refine ⟨recorded, proc, found, later, ?_, terminated, killed⟩
    simpa [World.update, List.getElem?_modify, same] using here

theorem Restarting.exit (restarting : Restarting queue world) :
    Restarting queue (world.update pid Proc.exit) := by
  cases restarting with
  | called between calls => exact .called between calls
  | stopping found phase calls => exact .stopping found phase calls
  | stopped between calls gone =>
      exact .stopped between calls (gone.evolves (World.evolves_of_update becomes_exit rfl rfl))
  | starting spawning calls => exact .starting spawning calls
  | raised returned raised => exact .raised returned raised
  | done returned fresh => exact .done returned (fresh_of_exit fresh)

/-- The `stop` of a restart finds a child to signal, or none that lives. -/
theorem Restarting.stops (between : world.phase = .between)
    (calls : world.calls = [.stop queue, .start queue]) (step : Proceeds late world later) :
    Restarting queue later := by
  rcases step.of_stop between calls with ⟨absent, rfl⟩ | ⟨pid, found, stops⟩
  · refine .stopped between rfl fun pid proc found => ?_
    cases absent.symm.trans found
  · rcases stops with ⟨_, rfl⟩ | ⟨dead, rfl⟩
    · exact .stopping found (Or.inl rfl) rfl
    · exact .stopped between rfl (gone_of_polled found dead)

/-- A `stop` goes on until the child is reaped or killed. -/
theorem Restarting.signals (found : world.procs.lookup queue = some pid)
    (phase : world.phase = .terminate pid ∨ world.phase = .wait pid ∨ world.phase = .kill pid)
    (calls : world.calls = [.start queue]) (step : Proceeds late world later) :
    Restarting queue later := by
  cases step with
  | terminated same =>
      rw [same] at phase
      rcases phase with same | same | same <;> cases same
      exact .stopping found (Or.inr (Or.inl rfl)) calls
  | expired same =>
      rw [same] at phase
      rcases phase with same | same | same <;> cases same
      exact .stopping found (Or.inr (Or.inr rfl)) calls
  | waited same dead =>
      rw [same] at phase
      rcases phase with same | same | same <;> cases same
      exact .stopped rfl calls (gone_of_polled found dead)
  | killed same =>
      rw [same] at phase
      rcases phase with same | same | same <;> cases same
      exact .stopped rfl calls (gone_of_killed found)
  | idle returned => cases calls.symm.trans returned.2
  | unknown other | absent other | running other | dead other | nothing other | stops other
  | stopped other | polled other | spawned other | failed other =>
      rw [other] at phase
      rcases phase with same | same | same <;> cases same

/-- The `start` of a restart spawns, unless the child that was killed looks alive. -/
theorem Restarting.starts (between : world.phase = .between)
    (calls : world.calls = [.start queue]) (gone : world.Gone queue)
    (sees : queue ∈ world.queues → ∀ (pid : Nat) proc, world.procs.lookup queue = some pid →
      world.table[pid]? = some proc → proc.killed = true → proc.looksAlive late = false)
    (step : Proceeds late world later) : Restarting queue later := by
  rcases step.of_start between calls with ⟨_, rfl⟩ | ⟨_, rfl⟩ | ⟨pid, found, known, starts⟩
  · exact .raised ⟨rfl, rfl⟩ rfl
  · exact .starting rfl rfl
  · rcases starts with ⟨alive, rfl⟩ | ⟨_, rfl⟩
    · -- a reaped child looks dead, and so does the one that was killed
      obtain ⟨proc, here, seen⟩ := (Option.any_eq_true _ _).mp alive
      rcases gone pid proc found here with reaped | killed
      · rw [Proc.looksAlive, reaped] at seen
        cases seen
      · cases seen.symm.trans (sees known pid proc found here killed)
    · exact .starting rfl rfl

/-- A restart comes one stage further. -/
theorem Restarting.proceeds (restarting : Restarting queue world)
    (earlier : world.earlier ≤ world.table.length)
    (operation : world.operation = some (.restart queue))
    (sees : SeesDeath world (.proceed late)) (step : Proceeds late world later) :
    Restarting queue later := by
  cases restarting with
  | called between calls => exact .stops between calls step
  | stopping found phase calls => exact .signals found phase calls step
  | stopped between calls gone =>
      exact .starts between calls gone (fun known => sees queue operation known between calls) step
  | starting spawning calls =>
      rcases step.of_spawn spawning with rfl | rfl
      · exact .done ⟨rfl, calls⟩ (fresh_of_spawned earlier)
      · exact .raised ⟨rfl, rfl⟩ rfl
  | raised returned raised =>
      cases step.of_returned returned
      exact .raised returned raised
  | done returned fresh =>
      cases step.of_returned returned
      exact .done returned fresh

end Stages

/-- The invariant of restarts. -/
structure Restarts (world : World) : Prop where
  earlier : world.earlier ≤ world.table.length
  unraised : ¬ world.Returned → world.raised = false
  restarting : ∀ queue, world.operation = some (.restart queue) → Restarting queue world

section Runs

variable {world : World} {label : Label}

theorem Restarts.step (restarts : Restarts world) (sees : SeesDeath world label) :
    Restarts (world.step label) := by
  cases label with
  | operate operation =>
      dsimp only [World.step]
      split
      · next returned =>
          refine ⟨Nat.le_refl _, fun _ => rfl, fun queue same => ?_⟩
          cases same
          exact .called returned.1 rfl
      · exact restarts
  | exit pid =>
      refine ⟨?_, restarts.unraised, fun queue same => (restarts.restarting queue same).exit⟩
      simpa [World.step, World.update] using restarts.earlier
  | proceed late =>
      have step := world.proceeds late
      obtain ⟨operation, earlier, _, grows⟩ := step.operation
      refine ⟨?_, ?_, fun queue same => ?_⟩
      · rw [World.step, earlier]
        exact Nat.le_trans restarts.earlier grows
      · intro busy
        rw [World.step, step.unraised busy]
        apply restarts.unraised
        intro returned
        have idle := step.of_returned returned
        exact busy (by rwa [World.step, idle])
      · rw [World.step, operation] at same
        exact (restarts.restarting queue same).proceeds restarts.earlier same sees step

/-- A restart that has returned has left a fresh worker. -/
theorem Restarts.fresh {queue : String} (restarts : Restarts world)
    (operation : world.operation = some (.restart queue)) (returned : world.Returned)
    (quiet : world.raised = false) : world.Fresh queue := by
  obtain ⟨between, none⟩ := returned
  cases restarts.restarting queue operation with
  | called _ calls => cases none.symm.trans calls
  | stopping _ _ calls => cases none.symm.trans calls
  | stopped _ calls => cases none.symm.trans calls
  | starting spawning => cases between.symm.trans spawning
  | raised _ raised => cases quiet.symm.trans raised
  | done _ fresh => exact fresh

theorem restartsFresh_iff (restarts : Restarts world) :
    RestartsFresh world label ↔ SeesDeath world label := by
  constructor
  · intro fresh
    cases label with
    | operate operation => trivial
    | exit pid => trivial
    | proceed late =>
        intro queue operation known between calls pid proc found here killed
        have quiet : world.raised = false := by
          apply restarts.unraised
          rintro ⟨_, none⟩
          cases none.symm.trans calls
        have step := world.proceeds late
        dsimp only [RestartsFresh, World.step] at fresh
        generalize world.proceed late = later at step fresh
        rcases step.of_start between calls with
          ⟨unknown, _⟩ | ⟨absent, _⟩ | ⟨other, same, _, starts⟩
        · exact absurd known unknown
        · cases found.symm.trans absent
        · cases found.symm.trans same
          rcases starts with ⟨_, rfl⟩ | ⟨dead, _⟩
          · -- nothing is spawned, and the killed child stays recorded
            obtain ⟨_, _, found', _, here', _, unkilled⟩ :=
              fresh queue operation known ⟨between, rfl⟩ quiet
            cases found.symm.trans found'
            rw [World.table_update, here] at here'
            cases here'
            cases unkilled.symm.trans ((becomes_polled late proc).killed killed)
          · simpa [World.looksAlive, here] using dead
  · intro sees queue operation _ returned quiet
    exact (restarts.step sees).fresh operation returned quiet

end Runs

/-- Over every run of a supervisor, whatever operations are called and whenever
children exit, each restart of a known queue that returns leaves a fresh worker, if
and only if no restart's `start` is told that a child which was killed is alive. -/
theorem restart_leaves_fresh_iff (queues : List String) (labels : List Label) :
    Along World.step RestartsFresh (World.init queues) labels ↔
      Along World.step SeesDeath (World.init queues) labels := by
  have preserved (world : World) (label : Label) (restarts : Restarts world)
      (sees : SeesDeath world label) : Restarts (world.step label) := restarts.step sees
  have same (world : World) (label : Label) (restarts : Restarts world) :
      RestartsFresh world label ↔ SeesDeath world label := restartsFresh_iff restarts
  have start : Restarts (World.init queues) :=
    ⟨Nat.le_refl _, fun _ => rfl, fun _ other => by cases other⟩
  exact along_iff_of_invariant preserved same start labels

/-- A worker that ignores `terminate`: it is killed, and still alive when `start`
polls it. -/
def ignoredTerminate : List Label :=
  [.operate (.start "order-tq"), .proceed true, .proceed true,
    .operate (.restart "order-tq"), .proceed true, .proceed true, .proceed true, .proceed true,
    .proceed true]

theorem killed_worker_stays_recorded :
    ¬ ∀ (queues : List String) (labels : List Label),
      Along World.step RestartsFresh (World.init queues) labels := by
  intro fresh
  obtain ⟨_, _, _, _, _, _, _, _, returned, _⟩ := fresh [] ignoredTerminate
  obtain ⟨pid, proc, found, later, _⟩ :=
    returned "order-tq" rfl (by decide) (by decide) rfl
  obtain rfl : 0 = pid := Option.some.inj found
  exact absurd later (by decide)

end WardenDemo.Supervision
