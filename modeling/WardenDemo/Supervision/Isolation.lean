import WardenDemo.Supervision.Orphans

/-!
# One team's queue offline

The operations on one queue leave the workers of the others alone: as long as none is
called for a queue, nor for all of them, its record stays, no worker is spawned for it,
and its workers are sent nothing and run on.
-/

namespace WardenDemo.Supervision

open Fold

/-- An operation which is called for a queue, or for all of them; one that only polls
concerns none. -/
def Operation.Concerns (queue : String) : Operation → Prop
  | .start other | .stop other | .restart other => other = queue
  | .startAll | .stopAll => True
  | .isRunning _ => False

def Label.Concerns (queue : String) : Label → Prop
  | .operate operation => operation.Concerns queue
  | .exit _ | .proceed _ => False

/-- A call which may signal or spawn a worker of a queue. -/
def Call.Concerns (queue : String) : Call → Prop
  | .start other | .stop other => other = queue
  | .poll _ => False

/-- The signals a child was sent. -/
def Proc.signals (proc : Proc) : Bool × Bool := (proc.terminated, proc.killed)

namespace World

/-- A child, if it is a worker of the queue. -/
def worker (queue : String) (pid : Nat) (world : World) : Option Proc :=
  world.table[pid]?.filter fun proc => proc.queue = queue

/-- Each record is of a child of its queue. -/
def Filed (world : World) : Prop :=
  ∀ queue pid, world.procs.lookup queue = some pid → (world.worker queue pid).isSome = true

/-- What an operation is about to do concerns other queues. -/
structure Apart (queue : String) (world : World) : Prop where
  calls : ∀ call ∈ world.calls, ¬ call.Concerns queue
  spawning : ∀ other, world.phase = .spawn other → other ≠ queue
  signalling : ∀ pid, world.phase = .terminate pid ∨ world.phase = .wait pid ∨
    world.phase = .kill pid → world.worker queue pid = none

/-- A step which sends a signal to a worker of the queue, or spawns one. -/
inductive Touches (queue : String) (world : World) : Label → Prop where
  | signals {pid : Nat} (late : Bool)
      (signalling : world.phase = .terminate pid ∨ world.phase = .kill pid)
      (mine : (world.worker queue pid).isSome = true) : Touches queue world (.proceed late)
  | spawns (late : Bool) (spawning : world.phase = .spawn queue) :
      Touches queue world (.proceed late)

/-- A worker of the queue runs. -/
def Runs (queue : String) (pid : Nat) (world : World) : Prop :=
  ∃ proc, world.worker queue pid = some proc ∧ proc.life = .running

/-- The workers of a queue are the same, were sent the same signals, and run on but for
those which have exited. -/
structure Spares (queue : String) (exits : Nat → Prop) (world later : World) : Prop where
  record : later.procs.lookup queue = world.procs.lookup queue
  signals : ∀ pid, (later.worker queue pid).map Proc.signals =
    (world.worker queue pid).map Proc.signals
  runs : ∀ pid, ¬ exits pid → world.Runs queue pid → later.Runs queue pid

end World

section Steps

variable {world later : World} {late : Bool} {queue : String} {pid : Nat}

theorem World.worker_update {change : Proc → Proc} (other : Nat)
    (keeps : ∀ proc : Proc, proc.Becomes (change proc)) :
    (world.update pid change).worker queue other =
      if pid = other then (world.worker queue other).map change else world.worker queue other := by
  unfold World.worker World.update
  rw [List.getElem?_modify]
  cases found : world.table[other]? with
  | none => simp
  | some proc =>
      by_cases same : pid = other <;> by_cases mine : proc.queue = queue <;>
        simp [same, mine, (keeps proc).queue, Option.filter]

/-- A child is a worker of one queue. -/
theorem World.worker_of_ne {other : String} (filed : (world.worker other pid).isSome = true)
    (differs : other ≠ queue) : world.worker queue pid = none := by
  obtain ⟨proc, found⟩ := Option.isSome_iff_exists.mp filed
  obtain ⟨here, mine⟩ := Option.filter_eq_some_iff.mp found
  unfold World.worker
  rw [here, Option.filter_eq_none_iff]
  rintro _ ⟨rfl⟩ same
  exact differs ((of_decide_eq_true mine).symm.trans (of_decide_eq_true same))

theorem World.worker_spawned (other : String) :
    ({ world with
        table := world.table ++ [{ queue := other }]
        procs := record other world.table.length world.procs
        phase := .between } : World).worker queue pid =
      if pid = world.table.length then
        if other = queue then some { queue := other } else none
      else world.worker queue pid := by
  unfold World.worker
  rw [List.getElem?_append]
  split
  · next inside =>
      rw [if_neg (Nat.ne_of_lt inside)]
  · next beyond =>
      by_cases last : pid = world.table.length
      · by_cases mine : other = queue <;> simp [last, mine, Option.filter]
      · have none : world.table[pid]? = none := List.getElem?_eq_none (Nat.le_of_not_lt beyond)
        have outside : ([{ queue := other }] : List Proc)[pid - world.table.length]? = .none :=
          List.getElem?_eq_none (by simp; omega)
        simp [last, none, outside]

section Filing

theorem World.Filed.update {change : Proc → Proc} (filed : world.Filed)
    (keeps : ∀ proc : Proc, proc.Becomes (change proc)) : (world.update pid change).Filed := by
  intro queue other found
  have before := filed queue other found
  rw [World.worker_update other keeps]
  split
  · rwa [Option.isSome_map]
  · exact before

theorem World.Filed.proceeds (filed : world.Filed) (step : Proceeds late world later) :
    later.Filed := by
  cases step with
  | @spawned spawnedQueue spawning =>
      intro queue pid found
      dsimp only at found
      rw [lookup_record] at found
      rw [World.worker_spawned]
      split at found
      · next same =>
          cases found
          simp [same]
      · next other =>
          have before := filed queue pid found
          split
          · next last =>
              rw [last, World.worker, List.getElem?_eq_none (Nat.le_refl _)] at before
              cases before
          · exact before
  | terminated => exact filed.update (becomes_terminate late)
  | killed => exact filed.update (becomes_kill late)
  | idle | unknown | absent | nothing | failed => exact filed
  | running | dead | stops | stopped | polled | expired | waited =>
      exact filed.update (becomes_polled late)

theorem World.Filed.step (filed : world.Filed) (label : Label) : (world.step label).Filed := by
  cases label with
  | operate operation =>
      dsimp only [World.step]
      split <;> exact filed
  | exit pid => exact filed.update becomes_exit
  | proceed late => exact filed.proceeds (world.proceeds late)

theorem filed_init (queues : List String) : (World.init queues).Filed := by
  intro queue pid found
  cases found

end Filing

namespace World

theorem signals_exit (proc : Proc) : proc.exit.signals = proc.signals := by
  unfold Proc.exit
  split <;> rfl

/-- A change which signals no worker of the queue, and ends none. -/
theorem spares_update {change : Proc → Proc} (keeps : ∀ proc : Proc, proc.Becomes (change proc))
    (gentle : ∀ proc, world.worker queue pid = some proc →
      (change proc).signals = proc.signals ∧
        (proc.life = .running → (change proc).life = .running)) :
    world.Spares queue (fun _ => False) (world.update pid change) := by
  refine ⟨rfl, fun other => ?_, fun other _ runs => ?_⟩
  · rw [worker_update other keeps]
    split
    · next same =>
        subst same
        cases found : world.worker queue pid with
        | none => rfl
        | some proc => exact congrArg some (gentle proc found).1
    · rfl
  · obtain ⟨proc, found, running⟩ := runs
    unfold Runs
    rw [worker_update other keeps]
    split
    · next same =>
        subst same
        exact ⟨change proc, by rw [found]; rfl, (gentle proc found).2 running⟩
    · exact ⟨proc, found, running⟩

theorem spares_polled :
    world.Spares queue (fun _ => False) (world.update pid (Proc.polled late)) := by
  apply spares_update (becomes_polled late)
  intro proc _
  unfold Proc.polled
  constructor
  · split <;> rfl
  · intro running
    rwa [if_pos (looksAlive_of_running late running)]

/-- What is done to a child of another queue. -/
theorem spares_of_other {change : Proc → Proc} (keeps : ∀ proc : Proc, proc.Becomes (change proc))
    (other : world.worker queue pid = none) :
    world.Spares queue (fun _ => False) (world.update pid change) := by
  apply spares_update keeps
  intro proc found
  rw [other] at found
  cases found

/-- Only the table and the records matter. -/
theorem Spares.of_same {middle : World} {exits : Nat → Prop}
    (spares : world.Spares queue exits middle) (table : later.table = middle.table)
    (procs : later.procs = middle.procs) : world.Spares queue exits later := by
  obtain ⟨record, signals, runs⟩ := spares
  refine ⟨by rw [procs, record], ?_, ?_⟩
  · intro pid
    rw [worker, table]
    exact signals pid
  · intro pid spared before
    unfold Runs
    rw [worker, table]
    exact runs pid spared before

theorem Spares.imp {exits exits' : Nat → Prop} (spares : world.Spares queue exits later)
    (more : ∀ pid, exits pid → exits' pid) : world.Spares queue exits' later :=
  ⟨spares.record, spares.signals,
    fun pid spared => spares.runs pid fun exit => spared (more pid exit)⟩

theorem Spares.refl : world.Spares queue (fun _ => False) world :=
  ⟨rfl, fun _ => rfl, fun _ _ => id⟩

theorem Spares.trans {middle : World} {exits exits' : Nat → Prop}
    (first : world.Spares queue exits middle) (second : middle.Spares queue exits' later) :
    world.Spares queue (fun pid => exits pid ∨ exits' pid) later where
  record := second.record.trans first.record
  signals pid := (second.signals pid).trans (first.signals pid)
  runs pid spared runs :=
    second.runs pid (fun exit => spared (Or.inr exit))
      (first.runs pid (fun exit => spared (Or.inl exit)) runs)

/-- An operation apart from a queue does nothing to its workers. -/
theorem Apart.proceeds (apart : world.Apart queue) (step : Proceeds late world later) :
    world.Spares queue (fun _ => False) later := by
  cases step with
  | idle | unknown | absent | nothing | failed => exact Spares.refl.of_same rfl rfl
  | running | dead | stops | stopped | polled | expired | waited =>
      exact spares_polled.of_same rfl rfl
  | terminated phase =>
      exact (spares_of_other (becomes_terminate late)
        (apart.signalling _ (Or.inl phase))).of_same rfl rfl
  | killed phase =>
      exact (spares_of_other (becomes_kill late)
        (apart.signalling _ (Or.inr (Or.inr phase)))).of_same rfl rfl
  | @spawned other spawning =>
      have differs : other ≠ queue := apart.spawning other spawning
      refine ⟨?_, fun pid => ?_, fun pid _ runs => ?_⟩
      · dsimp only
        rw [lookup_record, if_neg (Ne.symm differs)]
      · rw [worker_spawned, if_neg differs]
        split
        · next last =>
            rw [last, worker, List.getElem?_eq_none (Nat.le_refl _)]
            rfl
        · rfl
      · obtain ⟨proc, found, running⟩ := runs
        refine ⟨proc, ?_, running⟩
        rw [worker_spawned, if_neg]
        · exact found
        · rintro rfl
          rw [worker, List.getElem?_eq_none (Nat.le_refl _)] at found
          cases found

theorem apart_of_between (calls : ∀ call ∈ world.calls, ¬ call.Concerns queue)
    (between : world.phase = .between) : world.Apart queue := by
  refine ⟨calls, ?_, ?_⟩
  · intro other spawning
    cases between.symm.trans spawning
  · rintro pid (phase | phase | phase) <;> cases between.symm.trans phase

theorem Apart.of_cons {call : Call} {rest : List Call} (apart : world.Apart queue)
    (calls : world.calls = call :: rest) :
    ¬ call.Concerns queue ∧ ∀ other ∈ rest, ¬ other.Concerns queue := by
  have all := apart.calls
  rw [calls] at all
  exact List.forall_mem_cons.mp all

theorem apart_of_signalling (calls : ∀ call ∈ world.calls, ¬ call.Concerns queue)
    (phase : world.phase = .terminate pid ∨ world.phase = .wait pid ∨ world.phase = .kill pid)
    (other : world.worker queue pid = none) : world.Apart queue := by
  refine ⟨calls, ?_, ?_⟩
  · intro spawned spawning
    rcases phase with phase | phase | phase <;> cases phase.symm.trans spawning
  · rintro pid' (phase' | phase' | phase') <;>
      rcases phase with phase | phase | phase <;> cases phase.symm.trans phase' <;> exact other

theorem worker_update_of_none {change : Proc → Proc}
    (keeps : ∀ proc : Proc, proc.Becomes (change proc)) (other : world.worker queue pid = none) :
    (world.update pid change).worker queue pid = none := by
  rw [worker_update pid keeps, if_pos rfl, other]
  rfl

/-- What is done apart from a queue touches none of its workers. -/
theorem Apart.not_touches (apart : world.Apart queue) (label : Label) :
    ¬ world.Touches queue label := by
  rintro (⟨_, signalling, mine⟩ | ⟨_, spawning⟩)
  · have elsewhere := apart.signalling _ (signalling.imp_right Or.inr)
    rw [elsewhere] at mine
    cases mine
  · exact apart.spawning queue spawning rfl

/-- It stays apart: its calls are for other queues, and records are of their own workers. -/
theorem Apart.next (apart : world.Apart queue) (filed : world.Filed)
    (step : Proceeds late world later) : later.Apart queue := by
  cases step with
  | idle => exact apart
  | unknown | failed => exact apart_of_between (List.forall_mem_nil _) rfl
  | @absent other rest _ calls | @dead other rest _ _ calls =>
      obtain ⟨differs, later⟩ := apart.of_cons calls
      refine ⟨later, fun spawned spawning => ?_,
        by rintro pid (phase | phase | phase) <;> cases phase⟩
      cases spawning
      exact differs
  | running between calls | nothing between calls | stopped between calls
  | polled between calls => exact apart_of_between (apart.of_cons calls).2 between
  | @stops other rest pid between calls found =>
      obtain ⟨differs, later⟩ := apart.of_cons calls
      have elsewhere : world.worker queue pid = none :=
        worker_of_ne (filed other pid found) differs
      exact apart_of_signalling later (Or.inl rfl)
        (worker_update_of_none (becomes_polled late) elsewhere)
  | spawned | waited | killed => exact apart_of_between apart.calls rfl
  | terminated phase =>
      exact apart_of_signalling apart.calls (Or.inr (Or.inl rfl))
        (worker_update_of_none (becomes_terminate late) (apart.signalling _ (Or.inl phase)))
  | expired phase =>
      exact apart_of_signalling apart.calls (Or.inr (Or.inr rfl))
        (worker_update_of_none (becomes_polled late) (apart.signalling _ (Or.inr (Or.inl phase))))

/-- What is called for other queues is made of calls for other queues. -/
theorem not_concerns_of_script {operation : Operation} (other : ¬ operation.Concerns queue) :
    ∀ call ∈ world.script operation, ¬ call.Concerns queue := by
  cases operation with
  | start name | stop name | isRunning name =>
      intro call mem
      rw [List.mem_singleton.mp mem]
      exact other
  | restart name =>
      intro call mem
      simp only [Supervisor.script, List.mem_cons, List.not_mem_nil, or_false] at mem
      rcases mem with rfl | rfl <;> exact other
  | startAll | stopAll => exact absurd trivial other

theorem Apart.step (apart : world.Apart queue) (filed : world.Filed) {label : Label}
    (other : ¬ label.Concerns queue) :
    (world.step label).Apart queue ∧
      world.Spares queue (fun pid => label = .exit pid) (world.step label) := by
  cases label with
  | operate operation =>
      dsimp only [World.step]
      split
      · next returned =>
          have same : world.Spares queue (fun _ => False)
              { world with
                calls := world.script operation
                operation := some operation
                earlier := world.table.length
                raised := false } := Spares.refl.of_same rfl rfl
          exact ⟨apart_of_between (not_concerns_of_script other) returned.1,
            same.imp fun _ => False.elim⟩
      · exact ⟨apart, Spares.refl.imp fun _ => False.elim⟩
  | exit pid =>
      refine ⟨⟨apart.calls, apart.spawning, fun signalled phase => ?_⟩, rfl, fun worker => ?_,
        fun worker spared runs => ?_⟩
      · change (world.update pid Proc.exit).worker queue signalled = none
        rw [worker_update signalled becomes_exit, apart.signalling signalled phase]
        split <;> rfl
      · change ((world.update pid Proc.exit).worker queue worker).map Proc.signals = _
        rw [worker_update worker becomes_exit]
        split
        · cases world.worker queue worker with
          | none => rfl
          | some proc => exact congrArg some (signals_exit proc)
        · rfl
      · have apart : pid ≠ worker := fun same => spared (congrArg Label.exit same)
        obtain ⟨proc, found, running⟩ := runs
        refine ⟨proc, ?_, running⟩
        change (world.update pid Proc.exit).worker queue worker = some proc
        rw [worker_update worker becomes_exit, if_neg apart, found]
  | proceed late =>
      have step := world.proceeds late
      exact ⟨apart.next filed step, (apart.proceeds step).imp fun _ => False.elim⟩

end World

end Steps

/-- From wherever a supervisor has returned from its operations, as long as operations are
called for other queues only: the record of a queue stays, none of its workers is spawned
or sent a signal at any step, and each of them that runs goes on running unless it exits by
itself. -/
theorem queue_isolated {queues : List String} {before labels : List Label} {queue : String}
    (returned : (before.foldl World.step (World.init queues)).Returned)
    (others : ∀ label ∈ labels, ¬ label.Concerns queue) :
    (before.foldl World.step (World.init queues)).Spares queue (fun pid => .exit pid ∈ labels)
      ((before ++ labels).foldl World.step (World.init queues)) ∧
    Along World.step (fun world label => ¬ world.Touches queue label)
      (before.foldl World.step (World.init queues)) labels := by
  rw [List.foldl_append]
  have kept (world : World) (label : Label) (filed : world.Filed) : (world.step label).Filed :=
    filed.step label
  have filed : (before.foldl World.step (World.init queues)).Filed :=
    foldl_of_invariant kept (filed_init queues) before
  have apart : (before.foldl World.step (World.init queues)).Apart queue := by
    apply World.apart_of_between _ returned.1
    rw [returned.2]
    exact List.forall_mem_nil _
  generalize before.foldl World.step (World.init queues) = world at filed apart
  clear returned
  induction labels generalizing world with
  | nil => exact ⟨World.Spares.refl.imp fun _ => False.elim, trivial⟩
  | cons label rest ih =>
      obtain ⟨here, later⟩ := List.forall_mem_cons.mp others
      obtain ⟨apart', spares⟩ := apart.step filed here
      obtain ⟨spares', untouched⟩ := ih later _ (World.Filed.step filed label) apart'
      refine ⟨(spares.trans spares').imp fun pid => ?_, apart.not_touches label, untouched⟩
      rintro (rfl | mem)
      · exact List.mem_cons_self
      · exact List.mem_cons_of_mem _ mem

/-- All seven workers are started, two steps for each. -/
def fleetStarted : List Label := .operate .startAll :: List.replicate 14 (.proceed true)

/-- The worker of `order-tq` is told to stop, ignores it and is killed. -/
def orderStopped : List Label := .operate (.stop "order-tq") :: List.replicate 4 (.proceed true)

/-- While the orders are taken offline, the couriers are served and not signalled. -/
theorem queue_isolated_of_stop :
    ((fleetStarted ++ orderStopped).foldl World.step (World.init [])).Runs "courier-tq" 2 ∧
      Along World.step (fun world label => ¬ world.Touches "courier-tq" label)
        (fleetStarted.foldl World.step (World.init [])) orderStopped := by
  have others : ∀ label ∈ orderStopped, ¬ label.Concerns "courier-tq" := by
    intro label mem
    simp only [orderStopped, List.replicate, List.mem_cons, List.not_mem_nil, or_false] at mem
    rcases mem with rfl | rfl | rfl | rfl | rfl
    · have differs : "order-tq" ≠ "courier-tq" := by decide
      exact differs
    all_goals exact id
  have returned : (fleetStarted.foldl World.step (World.init [])).Returned := by decide
  obtain ⟨isolated, untouched⟩ := queue_isolated returned others
  refine ⟨isolated.runs 2 ?_ ⟨{ queue := "courier-tq" }, rfl, rfl⟩, untouched⟩
  intro exits
  simp [orderStopped] at exits

end WardenDemo.Supervision
