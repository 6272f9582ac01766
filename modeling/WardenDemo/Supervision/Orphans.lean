import WardenDemo.Fold.Runs
import WardenDemo.Supervision.Transitions

/-!
# No orphans

A child is only spawned once the one recorded for its queue is known to be dead,
and what is dead stays dead. So each child that runs is the recorded one, and
`stop_all`, which goes through the records, signals every one of them.
-/

namespace WardenDemo.Supervision

open Fold

theorem lookup_entry (queue other : String) (pid : Nat) (procs : List (String × Nat)) :
    ((queue, pid) :: procs).lookup other =
      if other = queue then some pid else procs.lookup other := by
  by_cases same : other = queue
  · rw [if_pos same, same, List.lookup_cons_self]
  · have differs : (other == queue) = false := beq_false_of_ne same
    rw [if_neg same, List.lookup_cons, differs]

theorem lookup_record (queue other : String) (pid : Nat) (procs : List (String × Nat)) :
    (record queue pid procs).lookup other =
      if other = queue then some pid else procs.lookup other := by
  induction procs with
  | nil => exact lookup_entry queue other pid []
  | cons entry rest ih =>
      obtain ⟨key, handle⟩ := entry
      rw [record, lookup_entry]
      split
      · next kept =>
          subst kept
          rw [lookup_entry]
          split <;> rfl
      · next kept =>
          rw [lookup_entry, ih]
          split
          · next same => rw [if_neg (same ▸ Ne.symm kept)]
          · rfl

theorem mem_of_lookup {queue : String} {pid : Nat} {procs : List (String × Nat)}
    (found : procs.lookup queue = some pid) : (queue, pid) ∈ procs := by
  obtain ⟨before, after, split, _⟩ := List.lookup_eq_some_iff.mp found
  simp [split]

/-- No child runs for a queue whose next one is being spawned. -/
def World.Vacant (queue : String) (world : World) : Prop :=
  queue ∈ world.queues ∧ ∀ (pid : Nat) proc, world.table[pid]? = some proc →
    proc.queue = queue → proc.life ≠ .running

/-- Each child belongs to a known queue, and each that runs is the recorded one. -/
structure Tidy (world : World) : Prop where
  known : ∀ (pid : Nat) proc, world.table[pid]? = some proc → proc.queue ∈ world.queues
  recorded : ∀ (pid : Nat) proc, world.table[pid]? = some proc → proc.life = .running →
    world.procs.lookup proc.queue = some pid
  vacant : ∀ queue, world.phase = .spawn queue → world.Vacant queue

section Tidiness

variable {world later : World} {late : Bool} {queue : String} {pid : Nat}

/-- A child that runs is seen to. -/
theorem looksAlive_of_table {proc : Proc} (found : world.table[pid]? = some proc)
    (running : proc.life = .running) : world.looksAlive late pid = true := by
  rw [World.looksAlive, found]
  exact looksAlive_of_running late running

/-- A queue is vacant when no live child is recorded for it. -/
theorem Tidy.vacant_of_records (tidy : Tidy world) (known : queue ∈ world.queues)
    (records : ∀ pid, world.procs.lookup queue = some pid → world.looksAlive late pid = false) :
    world.Vacant queue := by
  refine ⟨known, fun pid proc found same running => ?_⟩
  have recorded := tidy.recorded pid proc found running
  have dead := records pid (same ▸ recorded)
  rw [looksAlive_of_table found running] at dead
  cases dead

theorem Vacant.evolves (vacant : world.Vacant queue) (evolves : world.Evolves later) :
    later.Vacant queue := by
  obtain ⟨known, empty⟩ := vacant
  refine ⟨evolves.supervisor ▸ known, fun pid after found same running => ?_⟩
  obtain ⟨before, here, becomes⟩ := evolves.becomes pid after found
  exact empty pid before here (becomes.queue ▸ same) (becomes.running running)

theorem Tidy.evolves (tidy : Tidy world) (evolves : world.Evolves later)
    (vacant : ∀ queue, later.phase = .spawn queue → world.Vacant queue) : Tidy later := by
  constructor
  · intro pid after found
    obtain ⟨before, here, becomes⟩ := evolves.becomes pid after found
    rw [evolves.supervisor, becomes.queue]
    exact tidy.known pid before here
  · intro pid after found running
    obtain ⟨before, here, becomes⟩ := evolves.becomes pid after found
    rw [evolves.supervisor, becomes.queue]
    exact tidy.recorded pid before here (becomes.running running)
  · intro queue spawning
    exact Vacant.evolves (vacant queue spawning) evolves

theorem found_append {table : List Proc} {proc last : Proc}
    (found : (table ++ [last])[pid]? = some proc) :
    table[pid]? = some proc ∨ pid = table.length ∧ proc = last := by
  rw [List.getElem?_append] at found
  split at found
  · exact Or.inl found
  · next beyond =>
      rw [List.getElem?_singleton] at found
      split at found
      · cases found
        exact Or.inr ⟨by omega, rfl⟩
      · cases found

/-- A child is spawned for a vacant queue, and recorded. -/
theorem Tidy.spawned (tidy : Tidy world) (spawning : world.phase = .spawn queue) :
    Tidy { world with
      table := world.table ++ [{ queue := queue }]
      procs := record queue world.table.length world.procs
      phase := .between } := by
  obtain ⟨known, empty⟩ := tidy.vacant queue spawning
  constructor
  · intro pid proc found
    rcases found_append found with old | ⟨_, rfl⟩
    · exact tidy.known pid proc old
    · exact known
  · intro pid proc found running
    dsimp only
    rw [lookup_record]
    rcases found_append found with old | ⟨rfl, rfl⟩
    · have other : proc.queue ≠ queue := fun same => empty pid proc old same running
      rw [if_neg other]
      exact tidy.recorded pid proc old running
    · rw [if_pos rfl]
  · exact nofun

theorem Tidy.proceeds (tidy : Tidy world) (step : Proceeds late world later) : Tidy later := by
  by_cases spawns : ∃ queue, world.phase = .spawn queue
  · obtain ⟨queue, spawning⟩ := spawns
    rcases step.of_spawn spawning with rfl | rfl
    · exact tidy.spawned spawning
    · exact tidy.evolves (World.evolves_of_table rfl rfl) nofun
  · have spawnsNone : ∀ queue, world.phase ≠ .spawn queue := not_exists.mp spawns
    refine tidy.evolves (.of_proceeds step spawnsNone) fun queue spawning => ?_
    obtain ⟨known, records⟩ := step.to_spawn spawnsNone spawning
    exact tidy.vacant_of_records known records

theorem Tidy.step (tidy : Tidy world) (label : Label) : Tidy (world.step label) := by
  cases label with
  | operate operation =>
      dsimp only [World.step]
      split
      · exact tidy.evolves (World.evolves_of_table rfl rfl) tidy.vacant
      · exact tidy
  | exit pid => exact tidy.evolves (World.evolves_of_update becomes_exit rfl rfl) tidy.vacant
  | proceed late => exact tidy.proceeds (world.proceeds late)

theorem tidy_init (queues : List String) : Tidy (World.init queues) := by
  constructor <;> simp [World.init]

end Tidiness

/-- While `stop_all` goes on, a child that runs was sent a signal or is yet to be. -/
structure Stopping (world : World) : Prop where
  onlyStops : ∀ call ∈ world.calls, ∃ queue, call = .stop queue
  spawnsNone : ∀ queue, world.phase ≠ .spawn queue
  pending : ∀ (pid : Nat) proc, world.table[pid]? = some proc → proc.life = .running →
    proc.terminated = true ∨ .stop proc.queue ∈ world.calls ∨ world.phase = .terminate pid

section Stops

variable {world later : World} {late : Bool}

theorem Stopping.started (tidy : Tidy world) (between : world.phase = .between)
    (calls : later.calls = world.script .stopAll) (table : later.table = world.table)
    (phase : later.phase = world.phase) : Stopping later := by
  constructor
  · intro call member
    rw [calls] at member
    obtain ⟨entry, _, rfl⟩ := List.mem_map.mp member
    exact ⟨entry.1, rfl⟩
  · intro queue
    rw [phase, between]
    exact nofun
  · intro pid proc found running
    have recorded := tidy.recorded pid proc (table ▸ found) running
    right
    left
    rw [calls]
    exact List.mem_map.mpr ⟨_, mem_of_lookup recorded, rfl⟩

/-- What became of a child leaves it as pending as it was. -/
theorem Stopping.pending_after (stopping : Stopping world) (evolves : world.Evolves later)
    {pid : Nat} {proc : Proc} (found : later.table[pid]? = some proc)
    (running : proc.life = .running) :
    proc.terminated = true ∨ .stop proc.queue ∈ world.calls ∨ world.phase = .terminate pid := by
  obtain ⟨before, here, becomes⟩ := evolves.becomes pid proc found
  rw [becomes.queue]
  exact (stopping.pending pid before here (becomes.running running)).imp_left becomes.terminated

theorem Stopping.evolves (stopping : Stopping world) (evolves : world.Evolves later)
    (calls : later.calls = world.calls) (phase : later.phase = world.phase) :
    Stopping later := by
  constructor
  · exact calls ▸ stopping.onlyStops
  · exact phase ▸ stopping.spawnsNone
  · intro pid proc found running
    rw [calls, phase]
    exact stopping.pending_after evolves found running

/-- A stop goes on to the child that runs for its queue, if there is one. -/
theorem Stopping.begins {queue : String} {rest : List Call} (stopping : Stopping world)
    (evolves : world.Evolves later) (between : world.phase = .between)
    (calls : world.calls = .stop queue :: rest) (after : later.calls = rest)
    (spawnsNone : ∀ other, later.phase ≠ .spawn other)
    (signals : ∀ (pid : Nat) proc, later.table[pid]? = some proc → proc.life = .running →
      proc.queue = queue → later.phase = .terminate pid) : Stopping later := by
  refine ⟨fun call member => ?_, spawnsNone, fun pid proc found running => ?_⟩
  · exact stopping.onlyStops call (calls ▸ List.mem_cons_of_mem _ (after ▸ member))
  · rcases stopping.pending_after evolves found running with signalled | called | terminating
    · exact Or.inl signalled
    · rw [calls] at called
      rcases List.mem_cons.mp called with same | member
      · exact Or.inr (Or.inr (signals pid proc found running (Call.stop.inj same)))
      · exact Or.inr (Or.inl (after ▸ member))
    · cases between.symm.trans terminating

/-- A stop going on leaves the calls after it, once it has sent its signal. -/
theorem Stopping.continues (stopping : Stopping world) (evolves : world.Evolves later)
    (calls : later.calls = world.calls) (spawnsNone : ∀ other, later.phase ≠ .spawn other)
    (signalled : ∀ (pid : Nat) proc, world.phase = .terminate pid →
      later.table[pid]? = some proc → proc.life = .running → proc.terminated = true) :
    Stopping later := by
  refine ⟨calls ▸ stopping.onlyStops, spawnsNone, fun pid proc found running => ?_⟩
  rcases stopping.pending_after evolves found running with before | called | terminating
  · exact Or.inl before
  · exact Or.inr (Or.inl (calls ▸ called))
  · exact Or.inl (signalled pid proc terminating found running)

theorem terminated_of_update {pid : Nat} {proc : Proc}
    (found : (world.update pid (Proc.terminate late)).table[pid]? = some proc)
    (running : proc.life = .running) : proc.terminated = true := by
  rw [World.table_update] at found
  obtain ⟨before, _, rfl⟩ := Option.map_eq_some_iff.mp found
  exact terminated_terminate late running

theorem Stopping.proceeds (stopping : Stopping world) (tidy : Tidy world)
    (step : Proceeds late world later) : Stopping later := by
  have evolves : world.Evolves later := .of_proceeds step stopping.spawnsNone
  have recorded := (tidy.proceeds step).recorded
  have called {call : Call} {rest : List Call} (calls : world.calls = call :: rest) :
      ∃ queue, call = .stop queue := stopping.onlyStops call (calls ▸ List.mem_cons_self)
  cases step with
  | idle => exact stopping
  | unknown _ calls | absent _ calls | running _ calls | dead _ calls | polled _ calls =>
      obtain ⟨_, other⟩ := called calls
      cases other
  | spawned spawning | failed spawning => exact absurd spawning (stopping.spawnsNone _)
  | nothing between calls kind absent =>
      rcases kind with rfl | rfl
      · refine stopping.begins evolves between calls rfl (between ▸ nofun) ?_
        intro pid proc found running same
        have here := recorded pid proc found running
        rw [same] at here
        cases absent.symm.trans here
      · obtain ⟨_, other⟩ := called calls
        cases other
  | stops between calls found alive =>
      refine stopping.begins evolves between calls rfl nofun ?_
      intro pid proc here running same
      have other := recorded pid proc here running
      rw [same] at other
      cases found.symm.trans other
      rfl
  | stopped between calls found dead =>
      refine stopping.begins evolves between calls rfl (between ▸ nofun) ?_
      intro pid proc here running same
      have other := recorded pid proc here running
      rw [same] at other
      cases found.symm.trans other
      -- the poll has seen the recorded child dead, so it does not run
      obtain ⟨before, there, becomes⟩ := evolves.becomes _ proc here
      rw [looksAlive_of_table there (becomes.running running)] at dead
      cases dead
  | terminated terminating =>
      refine stopping.continues evolves rfl nofun ?_
      intro pid proc same found running
      cases terminating.symm.trans same
      exact terminated_of_update found running
  | expired waiting | waited waiting | killed waiting =>
      refine stopping.continues evolves rfl nofun ?_
      intro pid proc same
      cases waiting.symm.trans same

end Stops

/-- The invariant of a supervisor. -/
structure Tended (world : World) : Prop extends Tidy world where
  stopping : world.operation = some .stopAll → Stopping world

theorem Tended.step {world : World} (tended : Tended world) (label : Label) :
    Tended (world.step label) := by
  refine ⟨tended.toTidy.step label, fun operation => ?_⟩
  cases label with
  | operate called =>
      dsimp only [World.step] at operation ⊢
      split at operation
      · next returned =>
          cases operation
          rw [if_pos returned]
          exact .started tended.toTidy returned.1 rfl rfl rfl
      · next busy =>
          rw [if_neg busy]
          exact tended.stopping operation
  | exit pid =>
      exact (tended.stopping operation).evolves (World.evolves_of_update becomes_exit rfl rfl)
        rfl rfl
  | proceed late =>
      have step := world.proceeds late
      exact (tended.stopping (step.operation.1 ▸ operation)).proceeds tended.toTidy step

/-- What holds of a supervisor in every reachable state. -/
structure Supervised (world : World) : Prop where
  recorded : ∀ (pid : Nat) proc, world.table[pid]? = some proc → proc.life = .running →
    world.procs.lookup proc.queue = some pid
  single : ∀ (pid other : Nat) first second, world.table[pid]? = some first →
    world.table[other]? = some second → first.life = .running → second.life = .running →
    first.queue = second.queue → pid = other
  known : ∀ proc ∈ world.table, proc.queue ∈ world.queues
  stopped : world.operation = some .stopAll → world.Returned →
    ∀ proc ∈ world.table, proc.life = .running → proc.terminated = true

theorem Tended.supervised {world : World} (tended : Tended world) : Supervised world := by
  constructor
  · exact tended.recorded
  · intro pid other first second here there running running' same
    have record := tended.recorded pid first here running
    have record' := tended.recorded other second there running'
    rw [same, record'] at record
    exact (Option.some.inj record).symm
  · intro proc member
    obtain ⟨pid, found⟩ := List.mem_iff_getElem?.mp member
    exact tended.known pid proc found
  · intro stopAll returned proc member running
    obtain ⟨pid, found⟩ := List.mem_iff_getElem?.mp member
    obtain ⟨between, none⟩ := returned
    rcases (tended.stopping stopAll).pending pid proc found running with done | called | pending
    · exact done
    · rw [none] at called
      cases called
    · cases between.symm.trans pending

/-- In every state a supervisor reaches, whatever operations are called and whenever
children exit, each child that runs is the one recorded for its queue. There is one
for each queue at most, for known queues only, and after `stop_all` each was told to
terminate. -/
theorem workers_supervised (queues : List String) (labels : List Label) :
    Supervised (labels.foldl World.step (World.init queues)) := by
  have tended : Tended (World.init queues) := ⟨tidy_init queues, nofun⟩
  have preserved (world : World) (label : Label) (tended : Tended world) :
      Tended (world.step label) := tended.step label
  exact (foldl_of_invariant preserved tended labels).supervised

end WardenDemo.Supervision
