import WardenDemo.Supervision.Lifespan
import WardenDemo.Supervision.Orphans

/-!
# Workers left behind by a failed startup

Until the dashboard is up no worker is told to stop, so a startup that fails leaves
behind the workers which run at that time. A shutdown tells every worker.
-/

namespace WardenDemo.Supervision

open Fold

namespace Lifespan

variable (dashboard : Lifespan)

/-- The step ends the lifespan. -/
def Exits (label : Label) : Prop :=
  dashboard.stage ≠ .exited ∧ (dashboard.step label).stage = .exited

/-- When the lifespan ends, every worker that still runs was told to stop. -/
def StopsWorkers (label : Label) : Prop :=
  dashboard.Exits label → ∀ proc ∈ (dashboard.step label).table, proc.life = .running →
    proc.terminated = true

/-- A step that fails the startup does so while no worker runs. -/
def FailsAlone (label : Label) : Prop :=
  dashboard.Fails label → ∀ proc ∈ dashboard.table, proc.life ≠ .running

end Lifespan

/-- A supervisor that has done nothing but start workers. -/
structure Starting (world : World) : Prop where
  onlyStarts : ∀ call ∈ world.calls, ∃ queue ∈ world.queues, call = .start queue
  phase : world.phase = .between ∨ ∃ queue, world.phase = .spawn queue
  quiet : world.raised = false
  untold : ∀ proc ∈ world.table, proc.terminated = false

section Startup

variable {world later : World} {late : Bool}

theorem untold_update {change : Proc → Proc} (pid : Nat)
    (untold : ∀ proc ∈ world.table, proc.terminated = false)
    (keeps : ∀ proc : Proc, (change proc).terminated = proc.terminated) :
    ∀ proc ∈ (world.update pid change).table, proc.terminated = false := by
  intro proc member
  obtain ⟨other, found⟩ := List.mem_iff_getElem?.mp member
  rw [World.update, List.getElem?_modify] at found
  obtain ⟨before, here, rfl⟩ := Option.map_eq_some_iff.mp found
  have told := untold before (List.mem_of_getElem? here)
  split
  · rw [keeps, told]
  · exact told

theorem terminated_polled (late : Bool) (proc : Proc) :
    (proc.polled late).terminated = proc.terminated := by
  unfold Proc.polled
  split <;> rfl

theorem terminated_exit (proc : Proc) : proc.exit.terminated = proc.terminated := by
  unfold Proc.exit
  split <;> rfl

theorem Starting.exit (starting : Starting world) (pid : Nat) :
    Starting (world.update pid Proc.exit) :=
  ⟨starting.onlyStarts, starting.phase, starting.quiet,
    untold_update pid starting.untold terminated_exit⟩

/-- `start_all` starts the known queues. -/
theorem Starting.operate (starting : Starting world) :
    Starting (world.step (.operate .startAll)) := by
  dsimp only [World.step]
  split
  · next returned =>
      refine ⟨fun call member => ?_, Or.inl returned.1, rfl, starting.untold⟩
      obtain ⟨queue, known, rfl⟩ := List.mem_map.mp member
      exact ⟨queue, known, rfl⟩
  · exact starting

/-- Nothing but a spawn can raise while the workers are started. -/
theorem Starting.proceeds (starting : Starting world) (step : Proceeds late world later) :
    Starting later ∨ (∃ queue, world.phase = .spawn queue) ∧ later = world.raising := by
  have called {call : Call} {rest : List Call} (calls : world.calls = call :: rest) :
      ∃ queue ∈ world.queues, call = .start queue :=
    starting.onlyStarts call (calls ▸ List.mem_cons_self)
  have remaining {call : Call} {rest : List Call} (calls : world.calls = call :: rest) :
      ∀ other ∈ rest, ∃ queue ∈ world.queues, other = .start queue := fun other member =>
    starting.onlyStarts other (calls ▸ List.mem_cons_of_mem _ member)
  have polled (pid : Nat) := untold_update pid starting.untold (terminated_polled late)
  cases step with
  | idle => exact Or.inl starting
  | unknown _ calls unknown =>
      obtain ⟨_, known, same⟩ := called calls
      cases same
      exact absurd known unknown
  | absent _ calls =>
      exact Or.inl ⟨remaining calls, Or.inr ⟨_, rfl⟩, starting.quiet, starting.untold⟩
  | running between calls =>
      exact Or.inl ⟨remaining calls, Or.inl between, starting.quiet, polled _⟩
  | dead _ calls => exact Or.inl ⟨remaining calls, Or.inr ⟨_, rfl⟩, starting.quiet, polled _⟩
  | nothing _ calls kind =>
      obtain ⟨_, _, same⟩ := called calls
      rcases kind with other | other <;> cases same.symm.trans other
  | stops _ calls | stopped _ calls | polled _ calls =>
      obtain ⟨_, _, same⟩ := called calls
      cases same
  | spawned =>
      refine Or.inl ⟨starting.onlyStarts, Or.inl rfl, starting.quiet, fun proc member => ?_⟩
      rcases List.mem_append.mp member with old | new
      · exact starting.untold proc old
      · rw [List.mem_singleton.mp new]
  | failed spawning => exact Or.inr ⟨⟨_, spawning⟩, rfl⟩
  | terminated other | expired other | waited other | killed other =>
      rcases starting.phase with same | ⟨_, same⟩ <;> cases same.symm.trans other

theorem starting_init (queues : List String) : Starting (World.init queues) :=
  ⟨nofun, Or.inl rfl, rfl, nofun⟩

/-- A spawn is told whether it has spawned. -/
theorem proceed_of_spawn {queue : String} (spawning : world.phase = .spawn queue) :
    world.proceed late = world.spawn queue late := by
  rw [World.proceed, spawning]

end Startup

namespace Lifespan

/-- The invariant of a lifespan. -/
structure Kept (dashboard : Lifespan) : Prop extends Tended dashboard.toWorld where
  starting : dashboard.stage.startup = true → Starting dashboard.toWorld
  returned : dashboard.stage.waiting = true → dashboard.Returned
  stopAll : dashboard.stage = .stopping → dashboard.operation = some .stopAll

section Steps

variable {dashboard : Lifespan} {label : Label}

/-- Once the lifespan is up or has ended, the supervisor only has to be in order. -/
theorem kept_of_tended (tended : Tended dashboard.toWorld)
    (stage : dashboard.stage = .up ∨ dashboard.stage = .exited) : dashboard.Kept := by
  refine ⟨tended, ?_, ?_, ?_⟩ <;> rcases stage with here | here <;> rw [here] <;> exact nofun

theorem Kept.exiting (kept : dashboard.Kept) : dashboard.exiting.Kept :=
  kept_of_tended kept.toTended (Or.inr rfl)

/-- While no call goes on, nothing happens to the supervisor. -/
theorem Kept.waits (kept : dashboard.Kept) (waiting : dashboard.stage.waiting = true)
    (told : Bool) : dashboard.step (.proceed told) = dashboard := by
  have idle := (dashboard.toWorld.proceeds told).of_returned (kept.returned waiting)
  have same : dashboard.supervise (.proceed told) = dashboard := by
    rw [supervise, World.step, idle]
  rw [step, same]
  apply resume_of_other
  · intro here
    rw [here] at waiting
    cases waiting
  · intro here
    rw [here] at waiting
    cases waiting

/-- A step of `start_all` fails the startup, or goes on with it. -/
theorem Kept.starts (kept : dashboard.Kept) (here : dashboard.stage = .starting) (told : Bool) :
    dashboard.Fails (.proceed told) ∧ (dashboard.step (.proceed told)).stage = .exited ∧
      (dashboard.step (.proceed told)).table = dashboard.table ∨
    Starting (dashboard.step (.proceed told)).toWorld ∧
      ((dashboard.step (.proceed told)).stage = .starting ∨
        (dashboard.step (.proceed told)).stage = .connecting ∧
          (dashboard.step (.proceed told)).Returned) := by
  have starting := kept.starting (congrArg Stage.startup here)
  have still : (dashboard.supervise (.proceed told)).stage = .starting := here
  rw [toWorld_proceed]
  rcases starting.proceeds (dashboard.toWorld.proceeds told) with goesOn | ⟨spawns, raises⟩
  · right
    refine ⟨goesOn, ?_⟩
    by_cases returned : (dashboard.supervise (.proceed told)).Returned
    · right
      refine ⟨?_, returned⟩
      rw [step, resume_of_starting still returned, if_neg]
      exact ne_true_of_eq_false goesOn.quiet
    · left
      rw [step, resume_of_busy returned, still]
  · left
    rw [raises]
    refine ⟨⟨here, spawns, ?_⟩, ?_, rfl⟩
    · obtain ⟨queue, spawning⟩ := spawns
      cases told with
      | false => rfl
      | true =>
          -- a spawn that succeeds does not raise
          rw [proceed_of_spawn spawning] at raises
          have raised : dashboard.raised = true := congrArg World.raised raises
          cases starting.quiet.symm.trans raised
    · have supervised : (dashboard.supervise (.proceed told)).toWorld =
          dashboard.toWorld.raising := raises
      have returned : (dashboard.supervise (.proceed told)).Returned := by
        rw [supervised]
        exact ⟨rfl, rfl⟩
      rw [step, resume_of_starting still returned, if_pos]
      · rfl
      · rw [supervised]
        rfl

/-- A step of `stop_all` goes on with it, or is its last. -/
theorem stops (here : dashboard.stage = .stopping) (told : Bool) :
    (dashboard.step (.proceed told)).stage = .stopping ∧
      ¬ (dashboard.step (.proceed told)).Returned ∨
    (dashboard.step (.proceed told)).stage = .exited ∧
      (dashboard.step (.proceed told)).Returned := by
  have still : (dashboard.supervise (.proceed told)).stage = .stopping := here
  rw [toWorld_proceed]
  by_cases returned : (dashboard.supervise (.proceed told)).Returned
  · right
    rw [step, resume_of_stopping still returned]
    exact ⟨rfl, returned⟩
  · left
    rw [step, resume_of_busy returned, still]
    exact ⟨rfl, returned⟩

theorem Kept.proceed (kept : dashboard.Kept) (told : Bool) :
    (dashboard.step (.proceed told)).Kept := by
  have tended : Tended (dashboard.step (.proceed told)).toWorld :=
    toWorld_proceed told ▸ kept.toTended.step (.proceed told)
  cases here : dashboard.stage with
  | loading | connecting | ensuring =>
      rw [kept.waits (congrArg Stage.waiting here)]
      exact kept
  | starting =>
      rcases kept.starts here told with ⟨_, exits, _⟩ | ⟨starting, goesOn⟩
      · exact kept_of_tended tended (Or.inr exits)
      · refine ⟨tended, fun _ => starting, ?_, ?_⟩
        · rcases goesOn with still | ⟨next, returned⟩
          · rw [still]
            exact nofun
          · exact fun _ => returned
        · rcases goesOn with still | ⟨next, _⟩
          · rw [still]
            exact nofun
          · rw [next]
            exact nofun
  | up =>
      have still := stage_of_other (by rw [here]; exact nofun) (by rw [here]; exact nofun) told
      exact kept_of_tended tended (Or.inl (still.trans here))
  | exited =>
      have still := stage_of_other (by rw [here]; exact nofun) (by rw [here]; exact nofun) told
      exact kept_of_tended tended (Or.inr (still.trans here))
  | stopping =>
      rcases stops here told with ⟨still, _⟩ | ⟨exits, _⟩
      · refine ⟨tended, ?_, ?_, fun _ => ?_⟩
        · rw [still]
          exact nofun
        · rw [still]
          exact nofun
        · rw [toWorld_proceed, (dashboard.toWorld.proceeds told).operation.1]
          exact kept.stopAll here
      · exact kept_of_tended tended (Or.inr exits)

theorem Kept.step (kept : dashboard.Kept) (label : Label) : (dashboard.step label).Kept := by
  have advances := dashboard.advances label
  generalize dashboard.step label = later at advances
  cases advances with
  | ignored => exact kept
  | failed => exact kept.exiting
  | loaded here =>
      have starting := kept.starting (congrArg Stage.startup here)
      exact ⟨kept.toTended.step (.operate .startAll), fun _ => starting.operate, nofun, nofun⟩
  | connected here =>
      have starting := kept.starting (congrArg Stage.startup here)
      have returned := kept.returned (congrArg Stage.waiting here)
      exact ⟨kept.toTended, fun _ => starting, fun _ => returned, nofun⟩
  | ensured => exact kept_of_tended kept.toTended (Or.inl rfl)
  | requested here => exact kept_of_tended (kept.toTended.step (.operate _)) (Or.inl here)
  | shutDown _ returned =>
      refine ⟨kept.toTended.step (.operate .stopAll), nofun, nofun, fun _ => ?_⟩
      dsimp only [supervise, World.step]
      rw [if_pos returned]
  | exit pid =>
      exact ⟨kept.toTended.step (.exit pid), fun early => (kept.starting early).exit pid,
        kept.returned, kept.stopAll⟩
  | proceeded told => exact kept.proceed told

/-- A failure of the startup ends the lifespan, and leaves the workers as they are. -/
theorem Kept.fails (kept : dashboard.Kept) (fails : dashboard.Fails label) :
    dashboard.Exits label ∧ (dashboard.step label).table = dashboard.table ∧
      ∀ proc ∈ dashboard.table, proc.terminated = false := by
  have advances := dashboard.advances label
  rw [Exits]
  generalize dashboard.step label = later at advances
  cases advances with
  | ignored goesOn => exact absurd fails goesOn
  | failed early =>
      refine ⟨⟨?_, rfl⟩, rfl, (kept.starting early).untold⟩
      intro here
      rw [here] at early
      cases early
  | loaded => cases fails.2
  | connected _ ok =>
      obtain ⟨_, _, raises⟩ := fails
      cases ok.symm.trans raises
  | ensured _ ok =>
      obtain ⟨_, _, raises⟩ := fails
      cases ok.symm.trans raises
  | requested | shutDown | exit => exact fails.elim
  | proceeded told =>
      obtain ⟨here, ⟨queue, spawning⟩, rfl⟩ := fails
      have untold := (kept.starting (congrArg Stage.startup here)).untold
      rcases kept.starts here false with ⟨_, exits, table⟩ | ⟨starting, _⟩
      · exact ⟨⟨by rw [here]; exact nofun, exits⟩, table, untold⟩
      · -- the spawn has raised
        have quiet := starting.quiet
        rw [toWorld_proceed, proceed_of_spawn spawning] at quiet
        cases quiet

/-- A lifespan ends when the startup fails, or when `stop_all` has returned. -/
theorem Kept.exits (kept : dashboard.Kept) (exits : dashboard.Exits label) :
    dashboard.Fails label ∨
      (dashboard.step label).operation = some .stopAll ∧ (dashboard.step label).Returned := by
  obtain ⟨goesOn, exits⟩ := exits
  have advances := dashboard.advances label
  generalize dashboard.step label = later at advances exits ⊢
  cases advances with
  | ignored => exact absurd exits goesOn
  | failed _ fails => exact Or.inl fails
  | loaded | connected | ensured | shutDown => cases exits
  | requested | exit => exact absurd exits goesOn
  | proceeded told =>
      by_cases starting : dashboard.stage = .starting
      · rcases kept.starts starting told with ⟨fails, _⟩ | ⟨_, still | ⟨next, _⟩⟩
        · exact Or.inl fails
        · cases still.symm.trans exits
        · cases next.symm.trans exits
      · by_cases stopping : dashboard.stage = .stopping
        · rcases stops stopping told with ⟨still, _⟩ | ⟨_, returned⟩
          · cases still.symm.trans exits
          · refine Or.inr ⟨?_, returned⟩
            rw [toWorld_resume]
            exact (dashboard.toWorld.proceeds told).operation.1.trans (kept.stopAll stopping)
        · exact absurd ((stage_of_other starting stopping told).symm.trans exits) goesOn

theorem Kept.stopsWorkers_iff (kept : dashboard.Kept) :
    dashboard.StopsWorkers label ↔ dashboard.FailsAlone label := by
  constructor
  · intro stops fails proc member running
    obtain ⟨exits, table, untold⟩ := kept.fails fails
    have told := stops exits proc (table ▸ member) running
    cases (untold proc member).symm.trans told
  · intro alone exits proc member running
    rcases kept.exits exits with fails | ⟨stopAll, returned⟩
    · obtain ⟨_, table, _⟩ := kept.fails fails
      exact absurd running (alone fails proc (table ▸ member))
    · exact (kept.step label).supervised.stopped stopAll returned proc member running

theorem kept_init (queues : List String) : (init queues).Kept :=
  ⟨⟨tidy_init queues, nofun⟩, fun _ => starting_init queues, fun _ => ⟨rfl, rfl⟩, nofun⟩

theorem exited_step (here : dashboard.stage = .exited) (label : Label) :
    (dashboard.step label).stage = .exited := by
  cases label with
  | proceed told =>
      rw [stage_of_other (by rw [here]; exact nofun) (by rw [here]; exact nofun), here]
  | exit pid => exact here
  | load | connect | ensure | request | shutdown => simp [Lifespan.step, here]

/-- A shutdown ends the lifespan, once `stop_all` has been given the steps it may take. -/
theorem shutdown_exits (labels : List Label) (here : dashboard.stage = .stopping)
    (alone : ∀ label ∈ labels, label.proceeds = true ∨ ∃ pid, label = .exit pid)
    (enough : dashboard.rank < labels.countP Label.proceeds) :
    (labels.foldl step dashboard).stage = .exited := by
  induction labels generalizing dashboard with
  | nil => exact absurd enough (Nat.not_lt_zero _)
  | cons label rest ih =>
      have later := fun label member => alone label (List.mem_cons_of_mem _ member)
      cases label with
      | exit pid =>
          rw [List.countP_cons_of_neg (by exact nofun)] at enough
          exact ih here later enough
      | proceed told =>
          rcases stops here told with ⟨still, busy⟩ | ⟨exits, _⟩
          · apply ih still later
            rw [List.countP_cons_of_pos rfl] at enough
            rw [toWorld_proceed] at busy ⊢
            have step := dashboard.toWorld.proceeds told
            have fewer : (dashboard.toWorld.proceed told).rank < dashboard.rank := by
              apply step.rank_lt
              intro returned
              rw [step.of_returned returned] at busy
              exact busy returned
            omega
          · have ended (dashboard : Lifespan) (label : Label) (here : dashboard.stage = .exited) :
                (dashboard.step label).stage = .exited := exited_step here label
            exact foldl_of_invariant ended exits rest
      | load | connect | ensure | request | shutdown =>
          rcases alone _ List.mem_cons_self with proceeds | ⟨_, exit⟩
          · cases proceeds
          · cases exit

end Steps

/-- Over every run of the lifespan, for every queue list and whenever workers exit,
the workers that run when it ends were told to stop, if and only if no step fails the
startup while a worker runs. -/
theorem workers_stopped_iff (queues : List String) (labels : List Label) :
    Along Lifespan.step StopsWorkers (init queues) labels ↔
      Along Lifespan.step FailsAlone (init queues) labels := by
  have preserved (dashboard : Lifespan) (label : Label) (kept : dashboard.Kept)
      (_ : dashboard.FailsAlone label) : (dashboard.step label).Kept := kept.step label
  have same (dashboard : Lifespan) (label : Label) (kept : dashboard.Kept) :
      dashboard.StopsWorkers label ↔ dashboard.FailsAlone label := kept.stopsWorkers_iff
  exact along_iff_of_invariant preserved same (kept_init queues) labels

/-- All seven workers are spawned, two steps for each. -/
def allSpawned : List Label := .load (some {}) :: List.replicate 14 (.proceed true)

/-- The connection config is missing, and the workers were spawned before it is
checked. -/
theorem missing_config_abandons_workers :
    ¬ ∀ (queues : List String) (labels : List Label),
      Along Lifespan.step StopsWorkers (init queues) labels := by
  intro stops
  have last := (stops [] (allSpawned ++ [.connect (.ok ())])).last
  have told := last ⟨by decide, by decide⟩ { queue := "order-tq" } (by decide) rfl
  cases told

end Lifespan

end WardenDemo.Supervision
