import WardenDemo.Supervision.Isolation
import WardenDemo.Supervision.Standalone

/-!
# The fleet heals

A round of the loop looks at every queue once, and starts its worker unless that is seen
to run. What it has seen to, neither the rest of the round nor a stop of another worker
undoes; only the worker itself may exit.
-/

namespace WardenDemo.Supervision

open Fold

/-- A worker is being spawned. -/
def Phase.spawns : Phase → Bool
  | .spawn _ => true
  | .between | .terminate _ | .wait _ | .kill _ => false

namespace World

/-- The worker recorded for a queue runs, unless it is one of those that have exited. -/
def Served (exits : Nat → Prop) (queue : String) (world : World) : Prop :=
  ∃ pid, world.procs.lookup queue = some pid ∧ (exits pid ∨ world.Runs queue pid)

/-- The worker of a queue is being started, or could not be. -/
inductive Starts (queue : String) (world : World) : Prop where
  | called (between : world.phase = .between) (calls : world.calls = [.start queue])
  | spawning (spawning : world.phase = .spawn queue) (calls : world.calls = [])
  | raised (raised : world.raised = true)

section Steps

variable {world later : World} {late : Bool} {exits : Nat → Prop} {queue : String} {pid : Nat}

theorem Runs.update {change : Proc → Proc} (other : Nat) (runs : world.Runs queue pid)
    (keeps : ∀ proc : Proc, proc.Becomes (change proc))
    (goesOn : ∀ proc : Proc, proc.life = .running → (change proc).life = .running) :
    (world.update other change).Runs queue pid := by
  obtain ⟨proc, found, running⟩ := runs
  unfold Runs
  rw [worker_update pid keeps, found]
  split
  · exact ⟨change proc, rfl, goesOn proc running⟩
  · exact ⟨proc, rfl, running⟩

theorem running_polled {proc : Proc} (running : proc.life = .running) :
    (proc.polled late).life = .running := by
  rwa [Proc.polled, if_pos (looksAlive_of_running late running)]

theorem running_terminate {proc : Proc} (running : proc.life = .running) :
    (proc.terminate late).life = .running := by
  rwa [Proc.terminate, if_pos (looksAlive_of_running late running)]

theorem running_kill {proc : Proc} (running : proc.life = .running) :
    (proc.kill late).life = .running := by
  rwa [Proc.kill, if_pos (looksAlive_of_running late running)]

/-- A change which ends no child leaves each queue as served as it was. -/
theorem Served.update {change : Proc → Proc} (other : Nat) (served : world.Served exits queue)
    (keeps : ∀ proc : Proc, proc.Becomes (change proc))
    (goesOn : ∀ proc : Proc, proc.life = .running → (change proc).life = .running) :
    (world.update other change).Served exits queue := by
  obtain ⟨pid, found, serves⟩ := served
  exact ⟨pid, found, serves.imp_right fun runs => runs.update other keeps goesOn⟩

/-- A worker just spawned serves its queue. -/
theorem served_of_spawned (exits : Nat → Prop) :
    World.Served exits queue { world with
      table := world.table ++ [{ queue := queue }]
      procs := record queue world.table.length world.procs
      phase := .between } := by
  refine ⟨world.table.length, ?_, Or.inr ⟨{ queue := queue }, ?_, rfl⟩⟩
  · rw [lookup_record, if_pos rfl]
  · rw [worker_spawned, if_pos rfl, if_pos rfl]

/-- What an operation does takes no worker from a queue. -/
theorem Served.proceeds (served : world.Served exits queue) (step : Proceeds late world later) :
    later.Served exits queue := by
  cases step with
  | idle | unknown | absent | nothing | failed => exact served
  | running | dead | stops | stopped | polled | expired | waited =>
      exact served.update _ (becomes_polled late) fun _ => running_polled
  | terminated => exact served.update _ (becomes_terminate late) fun _ => running_terminate
  | killed => exact served.update _ (becomes_kill late) fun _ => running_kill
  | @spawned other =>
      by_cases same : queue = other
      · subst same
        exact served_of_spawned exits
      · obtain ⟨pid, found, serves⟩ := served
        refine ⟨pid, ?_, serves.imp_right ?_⟩
        · rw [lookup_record, if_neg same, found]
        · rintro ⟨proc, here, running⟩
          refine ⟨proc, ?_, running⟩
          rw [worker_spawned, if_neg, here]
          rintro rfl
          rw [worker, List.getElem?_eq_none (Nat.le_refl _)] at here
          cases here

theorem Served.step (served : world.Served exits queue) {label : Label}
    (known : ∀ pid, label = .exit pid → exits pid) : (world.step label).Served exits queue := by
  cases label with
  | operate operation =>
      dsimp only [World.step]
      split <;> exact served
  | proceed late => exact served.proceeds (world.proceeds late)
  | exit ended =>
      obtain ⟨pid, found, serves⟩ := served
      refine ⟨pid, found, ?_⟩
      by_cases same : ended = pid
      · exact Or.inl (known pid (congrArg Label.exit same))
      · refine serves.imp_right ?_
        rintro ⟨proc, here, running⟩
        refine ⟨proc, ?_, running⟩
        rw [World.step, worker_update pid becomes_exit, if_neg same, here]

theorem Served.run (served : world.Served exits queue) {labels : List Label}
    (known : ∀ pid, .exit pid ∈ labels → exits pid) :
    (labels.foldl World.step world).Served exits queue := by
  induction labels generalizing world with
  | nil => exact served
  | cons label rest ih =>
      apply ih
      · exact served.step fun pid exit => known pid (exit ▸ List.mem_cons_self)
      · exact fun pid mem => known pid (List.mem_cons_of_mem _ mem)

/-- A child which a poll rightly sees alive runs. -/
theorem runs_of_alive (filed : world.Filed) (found : world.procs.lookup queue = some pid)
    (alive : world.looksAlive false pid = true) : world.Runs queue pid := by
  obtain ⟨proc, mine⟩ := Option.isSome_iff_exists.mp (filed queue pid found)
  obtain ⟨here, _⟩ := Option.filter_eq_some_iff.mp mine
  rw [looksAlive, here] at alive
  refine ⟨proc, mine, ?_⟩
  unfold Proc.looksAlive at alive
  cases life : proc.life with
  | running => rfl
  | exited | reaped => simp [life] at alive

/-- A start which is told the truth ends with a worker that runs, unless it raises. -/
theorem Starts.proceeds (starts : world.Starts queue) (filed : world.Filed)
    (truthful : late = true → world.phase.spawns = true) (step : Proceeds late world later) :
    later.Served exits queue ∨ later.Starts queue := by
  cases starts with
  | called between calls =>
      rcases step.of_start between calls with ⟨_, rfl⟩ | ⟨_, rfl⟩ | ⟨pid, found, _, seen⟩
      · exact Or.inr (.raised rfl)
      · exact Or.inr (.spawning rfl rfl)
      · rcases seen with ⟨alive, rfl⟩ | ⟨_, rfl⟩
        · left
          have told : late = false := by
            cases late with
            | false => rfl
            | true => simp [between, Phase.spawns] at truthful
          subst told
          have runs := runs_of_alive filed found alive
          have runs' := runs.update pid (becomes_polled false) fun _ => running_polled
          exact ⟨pid, found, Or.inr runs'⟩
        · exact Or.inr (.spawning rfl rfl)
  | spawning phase calls =>
      rcases step.of_spawn phase with rfl | rfl
      · exact Or.inl (served_of_spawned exits)
      · exact Or.inr (.raised rfl)
  | raised raised =>
      right
      apply Starts.raised
      cases step <;> first | exact raised | rfl

theorem Starts.exit (starts : world.Starts queue) (pid : Nat) :
    (world.step (.exit pid)).Starts queue := by
  cases starts with
  | called between calls => exact .called between calls
  | spawning phase calls => exact .spawning phase calls
  | raised raised => exact .raised raised

theorem Starts.raised_of_returned (starts : world.Starts queue) (returned : world.Returned) :
    world.raised = true := by
  obtain ⟨between, none⟩ := returned
  cases starts with
  | called _ calls => cases none.symm.trans calls
  | spawning phase => cases between.symm.trans phase
  | raised raised => exact raised

theorem starts_of_operate (returned : world.Returned) :
    (world.step (.operate (.start queue))).Starts queue := by
  rw [World.step, if_pos returned]
  exact .called returned.1 rfl

end Steps

end World

namespace Standalone

/-- No child that has exited is reported alive. -/
def Truthful (main : Standalone) : Label → Prop
  | .proceed told => told = true → main.phase.spawns = true
  | .signal | .exit _ => True

/-- The queues a round has yet to look at. -/
def Stage.left : Stage → Option (List String)
  | .checking queues => some queues
  | .restarting rest => some rest
  | .sleeping => some []
  | .starting | .looping | .stopping | .exited => none

/-- What a round has looked at is served, but for the worker it is about to start. -/
def Round (exits : Nat → Prop) (main : Standalone) : Prop :=
  ∀ left, main.stage.left = some left → ∀ queue ∈ main.queues,
    queue ∈ left ∨ main.Served exits queue ∨
      main.stage = .restarting left ∧ main.Starts queue

section Rounds

variable {main : Standalone} {exits : Nat → Prop} {label : Label}

theorem filed_step (filed : main.Filed) (label : Label) : (main.step label).Filed := by
  obtain ⟨labels, same, _⟩ := main.toWorld_step label
  rw [same]
  have kept (world : World) (label : Supervision.Label) (filed : world.Filed) :
      (world.step label).Filed := filed.step label
  exact foldl_of_invariant kept filed labels

/-- No step takes a worker from a queue. -/
theorem served_step {queue : String} (served : main.Served exits queue)
    (known : ∀ pid, label = .exit pid → exits pid) : (main.step label).Served exits queue := by
  obtain ⟨labels, same, only⟩ := main.toWorld_step label
  rw [same]
  exact served.run fun pid mem => known pid (only pid mem)

/-- A worker is left to run, or is about to be started. -/
theorem Round.check {queue : String} {rest : List String} (round : main.Round exits)
    (filed : main.Filed) (here : main.stage = .checking (queue :: rest))
    (returned : main.Returned)
    (serves : ∀ other, main.Served exits other → (main.check false queue rest).Served exits other)
    (queues : (main.check false queue rest).queues = main.queues) :
    (main.check false queue rest).Round exits := by
  intro left still other mem
  rw [queues] at mem
  rcases round (queue :: rest) (congrArg Stage.left here) other mem with
    ahead | served | ⟨elsewhere, _⟩
  · unfold Standalone.check at still serves ⊢
    split at still
    · next running =>
        rw [if_pos running] at serves ⊢
        cases still
        rcases List.mem_cons.mp ahead with rfl | ahead
        · right
          left
          apply serves
          unfold World.isRunning at running
          cases found : main.procs.lookup other with
          | none => simp [found] at running
          | some pid =>
              rw [found] at running
              exact ⟨pid, found, Or.inr (World.runs_of_alive filed found running)⟩
        · exact Or.inl ahead
    · next dead =>
        rw [if_neg dead] at serves ⊢
        cases still
        rcases List.mem_cons.mp ahead with rfl | ahead
        · refine Or.inr (Or.inr ⟨rfl, ?_⟩)
          exact World.starts_of_operate (World.returned_of_isRunning returned)
        · exact Or.inl ahead
  · exact Or.inr (Or.inl (serves other served))
  · cases here.symm.trans elsewhere

theorem Round.step (round : main.Round exits) (filed : main.Filed)
    (truthful : main.Truthful label) (known : ∀ pid, label = .exit pid → exits pid) :
    (main.step label).Round exits := by
  have serves (queue : String) (served : main.Served exits queue) :
      (main.step label).Served exits queue := served_step served known
  have queues := main.queues_step label
  have advances := main.advances label
  generalize main.step label = later at advances serves queues
  cases advances with
  | rests | signalled => exact round
  | interrupted | failed | started | quits | raises | wakes | stopped => exact nofun
  | exit pid =>
      intro left still queue mem
      rcases round left still queue mem with ahead | served | ⟨here, starts⟩
      · exact Or.inl ahead
      · exact Or.inr (Or.inl (serves queue served))
      · exact Or.inr (Or.inr ⟨here, starts.exit pid⟩)
  | proceeded told =>
      intro left still queue mem
      rw [queues] at mem
      rcases round left still queue mem with ahead | served | ⟨here, starts⟩
      · exact Or.inl ahead
      · exact Or.inr (Or.inl (serves queue served))
      · rcases starts.proceeds filed truthful (main.toWorld.proceeds told) with served | starts
        · exact Or.inr (Or.inl served)
        · exact Or.inr (Or.inr ⟨here, starts⟩)
  | begins =>
      intro left still queue mem
      cases still
      exact Or.inl mem
  | @checked told queue rest here returned =>
      have right : told = false := by
        cases told with
        | false => rfl
        | true => simp [Truthful, returned.1, Phase.spawns] at truthful
      subst right
      exact round.check filed here returned serves queues
  | sleeps _ here =>
      intro left still queue mem
      cases still
      rcases round [] (congrArg Stage.left here) queue mem with ahead | served | ⟨elsewhere, _⟩
      · exact Or.inl ahead
      · exact Or.inr (Or.inl served)
      · cases here.symm.trans elsewhere
  | @restarted _ rest here returned raised =>
      intro left still queue mem
      cases still
      rcases round rest (congrArg Stage.left here) queue mem with ahead | served | ⟨_, starts⟩
      · exact Or.inl ahead
      · exact Or.inr (Or.inl served)
      · cases raised.symm.trans (starts.raised_of_returned returned)

theorem Round.run (round : main.Round exits) (filed : main.Filed) {labels : List Label}
    (truthful : Along Standalone.step Truthful main labels)
    (known : ∀ pid, .exit pid ∈ labels → exits pid) :
    (labels.foldl Standalone.step main).Round exits := by
  induction labels generalizing main with
  | nil => exact round
  | cons label rest ih =>
      apply ih _ (filed_step filed label) truthful.2
      · exact fun pid mem => known pid (List.mem_cons_of_mem _ mem)
      · exact round.step filed truthful.1 fun pid exit => known pid (exit ▸ List.mem_cons_self)

end Rounds

theorem filed_run (labels : List Label) : (run labels).Filed := by
  have kept (main : Standalone) (label : Label) (filed : main.Filed) : (main.step label).Filed :=
    filed_step filed label
  exact foldl_of_invariant kept (World.Filed.step (filed_init []) (.operate .startAll)) labels

/-- When the loop has gone round, each queue has a recorded worker, and that runs unless
it has exited since the round began. This holds whatever had become of the workers before
and whatever exits or signals come meanwhile, as long as no worker that has exited is
reported alive. -/
theorem fleet_heals {before round : List Label} (begun : (run before).stage = .looping)
    (truthful : Along step Truthful (run before) round)
    (slept : (run (before ++ round)).stage = .sleeping) {queue : String}
    (known : queue ∈ allTaskQueues) :
    (run (before ++ round)).Served (fun pid => .exit pid ∈ round) queue := by
  have start : (run before).Round (fun pid => .exit pid ∈ round) := by
    rintro left still
    rw [begun] at still
    cases still
  have after := start.run (filed_run before) truthful fun _ => id
  rw [run, List.foldl_append, ← run] at slept ⊢
  have mem : queue ∈ (round.foldl step (run before)).queues := by
    rw [run, ← List.foldl_append, ← run, queues_run]
    exact known
  rcases after [] (congrArg Stage.left slept) queue mem with ahead | served | ⟨elsewhere, _⟩
  · cases ahead
  · exact served
  · cases slept.symm.trans elsewhere

/-- The seven workers are started, two steps for each, and that of the orders dies. -/
def ordersDied : List Label := List.replicate 15 (.proceed true) ++ [.exit 0]

/-- The next round starts it anew, as process 7, and finds the others running. -/
def healingRound : List Label :=
  [.proceed false, .proceed false, .proceed false, .proceed true] ++
    List.replicate 8 (.proceed false)

theorem fleet_heals_of_death : (run (ordersDied ++ healingRound)).Runs "order-tq" 7 := by
  have truthful : Along step Truthful (run ordersDied) healingRound :=
    ⟨nofun, nofun, nofun, fun _ => rfl, nofun, nofun, nofun, nofun, nofun, nofun, nofun, nofun,
      trivial⟩
  have known : "order-tq" ∈ allTaskQueues := by decide
  have healed := fleet_heals (by decide) truthful (by decide) known
  obtain ⟨pid, found, exited | runs⟩ := healed
  · simp [healingRound] at exited
  · have recorded : (run (ordersDied ++ healingRound)).procs.lookup "order-tq" = some 7 := by decide
    cases found.symm.trans recorded
    exact runs

end Standalone

end WardenDemo.Supervision
