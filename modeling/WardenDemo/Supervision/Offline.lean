import WardenDemo.Supervision.Isolation
import WardenDemo.Supervision.Restart

/-!
# A queue taken offline

`stop` returns once the recorded worker has been reaped, or was killed after the timeout.
From then on nothing serves the queue until a worker is started for it: what is called
for the other queues does not bring it back, and neither does a wrong report of a death.
-/

namespace WardenDemo.Supervision

open Fold

/-- An operation which stops the worker of a queue, and starts none. -/
def Operation.Stops (queue : String) : Operation → Prop
  | .stop other => other = queue
  | .stopAll => True
  | .start _ | .restart _ | .startAll | .isRunning _ => False

/-- An operation which starts a worker for a queue. -/
def Operation.Starts (queue : String) : Operation → Prop
  | .start other | .restart other => other = queue
  | .startAll => True
  | .stop _ | .stopAll | .isRunning _ => False

instance (queue : String) : DecidablePred (Operation.Starts queue)
  | .start other | .restart other => inferInstanceAs (Decidable (other = queue))
  | .startAll => isTrue trivial
  | .stop _ | .stopAll | .isRunning _ => isFalse id

def Label.Starts (queue : String) : Label → Prop
  | .operate operation => operation.Starts queue
  | .exit _ | .proceed _ => False

instance (queue : String) : DecidablePred (Label.Starts queue)
  | .operate operation => inferInstanceAs (Decidable (operation.Starts queue))
  | .exit _ | .proceed _ => isFalse id

namespace World

/-- How far the operation going on has come to take a queue offline, or that this is done
and the operation starts no worker for it. -/
inductive Closes (queue : String) (world : World) : Prop where
  | ahead (stops : .stop queue ∈ world.calls) (startsNone : ∀ other, .start other ∉ world.calls)
      (spawnsNone : ∀ other, world.phase ≠ .spawn other)
  | signals {pid : Nat} (found : world.procs.lookup queue = some pid)
      (phase : world.phase = .terminate pid ∨ world.phase = .wait pid ∨ world.phase = .kill pid)
      (starts : .start queue ∉ world.calls)
  | gone (gone : world.Gone queue) (starts : .start queue ∉ world.calls)
      (spawns : world.phase ≠ .spawn queue)

section Steps

variable {world later : World} {late : Bool} {queue : String}

/-- A worker spawned for another queue is not the one recorded for this one. -/
theorem Gone.spawned (gone : world.Gone queue) (filed : world.Filed) {other : String}
    (differs : queue ≠ other) :
    World.Gone queue { world with
      table := world.table ++ [{ queue := other }]
      procs := record other world.table.length world.procs
      phase := .between } := by
  intro pid proc found here
  dsimp only at found here
  rw [lookup_record, if_neg differs] at found
  rcases found_append here with before | ⟨rfl, rfl⟩
  · exact gone pid proc found before
  · have recorded := filed queue _ found
    rw [worker, List.getElem?_eq_none (Nat.le_refl _)] at recorded
    cases recorded

theorem not_mem_of_cons {call other : Call} {rest : List Call} (none : other ∉ world.calls)
    (calls : world.calls = call :: rest) : other ≠ call ∧ other ∉ rest := by
  rw [calls] at none
  exact ⟨List.ne_of_not_mem_cons none, List.not_mem_of_not_mem_cons none⟩

/-- What starts no worker for a queue leaves it offline. -/
theorem Closes.of_gone (gone : world.Gone queue) (filed : world.Filed)
    (starts : .start queue ∉ world.calls) (spawns : world.phase ≠ .spawn queue)
    (step : Proceeds late world later) : later.Closes queue := by
  have polled (pid : Nat) : (world.update pid (Proc.polled late)).Gone queue :=
    gone.evolves (evolves_of_update (becomes_polled late) rfl rfl)
  cases step with
  | idle => exact .gone gone starts spawns
  | unknown | failed => exact .gone gone List.not_mem_nil nofun
  | @absent other _ _ calls =>
      obtain ⟨differs, starts⟩ := not_mem_of_cons starts calls
      refine .gone gone starts fun spawning => differs ?_
      cases spawning
      rfl
  | @dead other _ pid _ calls =>
      obtain ⟨differs, starts⟩ := not_mem_of_cons starts calls
      refine .gone (polled pid) starts fun spawning => differs ?_
      cases spawning
      rfl
  | nothing _ calls => exact .gone gone (not_mem_of_cons starts calls).2 spawns
  | @running _ _ pid _ calls | @stopped _ _ pid _ calls | @polled _ _ pid _ calls =>
      exact .gone (polled pid) (not_mem_of_cons starts calls).2 spawns
  | @stops _ _ pid _ calls => exact .gone (polled pid) (not_mem_of_cons starts calls).2 nofun
  | @spawned other spawning =>
      have differs : queue ≠ other := by
        rintro rfl
        exact spawns spawning
      exact .gone (gone.spawned filed differs) starts nofun
  | terminated =>
      exact .gone (gone.evolves (evolves_of_update (becomes_terminate late) rfl rfl)) starts nofun
  | killed =>
      exact .gone (gone.evolves (evolves_of_update (becomes_kill late) rfl rfl)) starts nofun
  | @expired pid | @waited pid => exact .gone (polled pid) starts nofun

/-- A worker which was signalled is seen to the end. -/
theorem Closes.of_signals {pid : Nat} (found : world.procs.lookup queue = some pid)
    (phase : world.phase = .terminate pid ∨ world.phase = .wait pid ∨ world.phase = .kill pid)
    (starts : .start queue ∉ world.calls) (step : Proceeds late world later) :
    later.Closes queue := by
  cases step with
  | terminated same =>
      rw [same] at phase
      rcases phase with same | same | same <;> cases same
      exact .signals found (Or.inr (Or.inl rfl)) starts
  | expired same =>
      rw [same] at phase
      rcases phase with same | same | same <;> cases same
      exact .signals found (Or.inr (Or.inr rfl)) starts
  | waited same dead =>
      rw [same] at phase
      rcases phase with same | same | same <;> cases same
      exact .gone (gone_of_polled found dead) starts nofun
  | killed same =>
      rw [same] at phase
      rcases phase with same | same | same <;> cases same
      exact .gone (gone_of_killed found) starts nofun
  | idle returned =>
      rw [returned.1] at phase
      rcases phase with same | same | same <;> cases same
  | unknown other | absent other | running other | dead other | nothing other | stops other
  | stopped other | polled other | spawned other | failed other =>
      rw [other] at phase
      rcases phase with same | same | same <;> cases same

/-- A call other than the one to come leaves it to come. -/
theorem mem_of_cons {call : Call} {rest : List Call} (stops : .stop queue ∈ world.calls)
    (calls : world.calls = call :: rest) : .stop queue = call ∨ .stop queue ∈ rest := by
  rwa [calls, List.mem_cons] at stops

/-- The worker of a queue comes to be stopped. -/
theorem Closes.of_ahead (stops : .stop queue ∈ world.calls)
    (startsNone : ∀ other, .start other ∉ world.calls)
    (spawnsNone : ∀ other, world.phase ≠ .spawn other) (step : Proceeds late world later) :
    later.Closes queue := by
  have rest {call : Call} {rest : List Call} (calls : world.calls = call :: rest) (other : String) :
      .start other ∉ rest := (not_mem_of_cons (startsNone other) calls).2
  cases step with
  | idle returned =>
      rw [returned.2] at stops
      cases stops
  | unknown _ calls | absent _ calls | running _ calls | dead _ calls =>
      exact absurd rfl (not_mem_of_cons (startsNone _) calls).1
  | spawned spawning | failed spawning => exact absurd spawning (spawnsNone _)
  | @nothing call other _ _ calls kind absent =>
      rcases mem_of_cons stops calls with rfl | later
      · rcases kind with same | same <;> cases same
        refine .gone (fun pid proc found _ => ?_) (rest calls queue) (spawnsNone queue)
        cases absent.symm.trans found
      · exact .ahead later (rest calls) spawnsNone
  | stops _ calls found alive =>
      rcases mem_of_cons stops calls with same | later
      · cases same
        exact .signals found (Or.inl rfl) (rest calls queue)
      · exact .ahead later (rest calls) nofun
  | stopped _ calls found dead =>
      rcases mem_of_cons stops calls with same | later
      · cases same
        exact .gone (gone_of_polled found dead) (rest calls queue) (spawnsNone queue)
      · exact .ahead later (rest calls) spawnsNone
  | polled _ calls =>
      rcases mem_of_cons stops calls with same | later
      · cases same
      · exact .ahead later (rest calls) spawnsNone
  | terminated | expired | waited | killed => exact .ahead stops startsNone nofun

theorem Closes.proceeds (closes : world.Closes queue) (filed : world.Filed)
    (step : Proceeds late world later) : later.Closes queue := by
  cases closes with
  | ahead stops startsNone spawnsNone => exact .of_ahead stops startsNone spawnsNone step
  | signals found phase starts => exact .of_signals found phase starts step
  | gone gone starts spawns => exact .of_gone gone filed starts spawns step

/-- The script of an operation which starts no worker for a queue. -/
theorem start_not_mem_script {operation : Operation} (other : ¬ operation.Starts queue) :
    .start queue ∉ world.script operation := by
  cases operation with
  | start name =>
      rw [Supervisor.script, List.mem_singleton]
      rintro ⟨rfl⟩
      exact other rfl
  | restart name =>
      simp only [Supervisor.script, List.mem_cons, List.not_mem_nil, or_false]
      rintro (same | same) <;> cases same
      exact other rfl
  | startAll => exact absurd trivial other
  | stop name | isRunning name =>
      rw [Supervisor.script, List.mem_singleton]
      intro same
      cases same
  | stopAll =>
      rw [Supervisor.script, List.mem_map]
      rintro ⟨entry, _, same⟩
      cases same

theorem Closes.step (closes : world.Closes queue) (filed : world.Filed) {label : Label}
    (other : ¬ label.Starts queue) : (world.step label).Closes queue := by
  cases label with
  | operate operation =>
      dsimp only [World.step]
      split
      · next returned =>
          obtain ⟨between, none⟩ := returned
          cases closes with
          | ahead stops =>
              rw [none] at stops
              cases stops
          | signals _ phase =>
              rw [between] at phase
              rcases phase with same | same | same <;> cases same
          | gone gone starts spawns =>
              exact .gone gone (start_not_mem_script other) spawns
      · exact closes
  | exit pid =>
      cases closes with
      | ahead stops startsNone spawnsNone => exact .ahead stops startsNone spawnsNone
      | signals found phase starts => exact .signals found phase starts
      | gone gone starts spawns =>
          exact .gone (gone.evolves (evolves_of_update becomes_exit rfl rfl)) starts spawns
  | proceed late => exact closes.proceeds filed (world.proceeds late)

theorem Closes.run (closes : world.Closes queue) (filed : world.Filed) {labels : List Label}
    (others : ∀ label ∈ labels, ¬ label.Starts queue) :
    (labels.foldl World.step world).Closes queue := by
  induction labels generalizing world with
  | nil => exact closes
  | cons label rest ih =>
      obtain ⟨here, later⟩ := List.forall_mem_cons.mp others
      exact ih (closes.step filed here) (filed.step label) later

/-- Calling a stop for a queue. -/
theorem closes_of_operate (returned : world.Returned) {operation : Operation}
    (stops : operation.Stops queue) : (world.step (.operate operation)).Closes queue := by
  rw [World.step, if_pos returned]
  have spawnsNone (other : String) : world.phase ≠ .spawn other := by
    intro spawning
    cases returned.1.symm.trans spawning
  cases operation with
  | stop name =>
      cases stops
      refine .ahead (List.mem_singleton_self _) (fun other mem => ?_) spawnsNone
      cases List.mem_singleton.mp mem
  | stopAll =>
      have startsNone (other : String) : .start other ∉ world.script .stopAll := by
        apply start_not_mem_script
        exact id
      cases found : world.procs.lookup queue with
      | none =>
          refine .gone (fun pid proc recorded _ => ?_) (startsNone queue) (spawnsNone queue)
          cases found.symm.trans recorded
      | some pid =>
          refine .ahead ?_ startsNone spawnsNone
          exact List.mem_map_of_mem (f := fun entry => Call.stop entry.1) (mem_of_lookup found)
  | start | restart | startAll | isRunning => exact stops.elim

/-- Whatever still runs of a queue taken offline has been killed. -/
theorem Closes.killed (closes : world.Closes queue) (tidy : Tidy world)
    (returned : world.Returned) {pid : Nat} {proc : Proc}
    (found : world.worker queue pid = some proc) (running : proc.life = .running) :
    proc.killed = true := by
  obtain ⟨between, none⟩ := returned
  obtain ⟨here, mine⟩ := Option.filter_eq_some_iff.mp found
  obtain rfl := of_decide_eq_true mine
  cases closes with
  | ahead stops =>
      rw [none] at stops
      cases stops
  | signals _ phase =>
      rw [between] at phase
      rcases phase with same | same | same <;> cases same
  | gone gone =>
      rcases gone pid proc (tidy.recorded pid proc here running) here with reaped | killed
      · cases running.symm.trans reaped
      · exact killed

end Steps

end World

/-- Once a `stop` of a queue, or of all, is called, and until an operation is called which
starts a worker for it: whenever the supervisor has returned, no worker of the queue runs
but one it has killed. This holds whatever is called for other queues, whenever children
exit, and whatever is reported of them. -/
theorem queue_stays_offline {queues : List String} {before labels : List Label} {queue : String}
    {operation : Operation} (returned : (before.foldl World.step (World.init queues)).Returned)
    (stops : operation.Stops queue) (others : ∀ label ∈ labels, ¬ label.Starts queue)
    (ended : ((before ++ .operate operation :: labels).foldl World.step
      (World.init queues)).Returned) {pid : Nat} {proc : Proc}
    (found : ((before ++ .operate operation :: labels).foldl World.step
      (World.init queues)).worker queue pid = some proc) (running : proc.life = .running) :
    proc.killed = true := by
  have tidied (world : World) (label : Label) (tidy : Tidy world) : Tidy (world.step label) :=
    tidy.step label
  have filing (world : World) (label : Label) (filed : world.Filed) : (world.step label).Filed :=
    filed.step label
  have tidy : Tidy ((before ++ .operate operation :: labels).foldl World.step
      (World.init queues)) :=
    foldl_of_invariant tidied (tidy_init queues) _
  have filed : ((before.foldl World.step (World.init queues)).step (.operate operation)).Filed :=
    (foldl_of_invariant filing (filed_init queues) before).step _
  rw [List.foldl_append, List.foldl_cons] at found ended tidy
  have closes := (World.closes_of_operate returned stops).run filed others
  exact closes.killed tidy ended found running

/-- The worker of `order-tq` ignores the signal to stop, and that of `menu-tq` is restarted. -/
def menuRestarted : List Label :=
  List.replicate 4 (.proceed true) ++
    .operate (.restart "menu-tq") :: List.replicate 6 (.proceed true)

theorem queue_stays_offline_of_kill :
    ∃ proc, ((fleetStarted ++ .operate (.stop "order-tq") :: menuRestarted).foldl World.step
        (World.init [])).worker "order-tq" 0 = some proc ∧
      proc.life = .running ∧ proc.killed = true := by
  have returned : (fleetStarted.foldl World.step (World.init [])).Returned := by decide
  have ended : ((fleetStarted ++ .operate (.stop "order-tq") :: menuRestarted).foldl World.step
      (World.init [])).Returned := by decide
  have stops : (Operation.stop "order-tq").Stops "order-tq" := rfl
  have others : ∀ label ∈ menuRestarted, ¬ label.Starts "order-tq" := by decide
  have found : ((fleetStarted ++ .operate (.stop "order-tq") :: menuRestarted).foldl World.step
      (World.init [])).worker "order-tq" 0 =
      some { queue := "order-tq", terminated := true, killed := true } := rfl
  exact ⟨_, found, rfl, queue_stays_offline returned stops others ended found rfl⟩

end WardenDemo.Supervision
