import Mathlib.Data.List.Perm.Subperm
import WardenDemo.Supervision.Standalone

/-!
# A signal ends the fleet

Each thing the process does costs it some of the steps it may still take, but for a round
that is begun anew; and once the flag is set no round is. Whatever ends the process after
its handlers were installed goes through `stop_all`.
-/

namespace WardenDemo.Supervision

open Fold

/-- Each queue has one record at most, and only known queues have one. -/
structure Listed (world : World) : Prop where
  single : (world.procs.map Prod.fst).Nodup
  queued : ∀ queue ∈ world.procs.map Prod.fst, queue ∈ world.queues

section Records

variable {world later : World} {late : Bool}

theorem map_fst_record (queue : String) (pid : Nat) (procs : List (String × Nat)) :
    (record queue pid procs).map Prod.fst =
      if queue ∈ procs.map Prod.fst then procs.map Prod.fst
      else procs.map Prod.fst ++ [queue] := by
  induction procs with
  | nil => rfl
  | cons entry rest ih =>
      obtain ⟨other, handle⟩ := entry
      rw [record]
      split
      · next same => simp [same]
      · next differs =>
          rw [List.map_cons, ih]
          by_cases mem : queue ∈ rest.map Prod.fst <;> simp [differs, mem]

theorem Listed.proceeds (listed : Listed world) (tidy : Tidy world)
    (step : Proceeds late world later) : Listed later := by
  obtain ⟨single, queued⟩ := listed
  cases step with
  | @spawned queue spawning =>
      have here : queue ∈ world.queues := (tidy.vacant queue spawning).1
      constructor
      · dsimp only
        rw [map_fst_record]
        split
        · exact single
        · next fresh =>
            refine List.nodup_append.mpr ⟨single, List.nodup_singleton queue, ?_⟩
            rintro key mem _ last rfl
            exact fresh (List.mem_singleton.mp last ▸ mem)
      · intro other mem
        dsimp only at mem
        rw [map_fst_record] at mem
        split at mem
        · exact queued other mem
        · rcases List.mem_append.mp mem with old | new
          · exact queued other old
          · rwa [List.mem_singleton.mp new]
  | _ => exact ⟨single, queued⟩

theorem Listed.step (listed : Listed world) (tidy : Tidy world) (label : Label) :
    Listed (world.step label) := by
  cases label with
  | operate operation =>
      dsimp only [World.step]
      split <;> exact ⟨listed.single, listed.queued⟩
  | exit pid => exact ⟨listed.single, listed.queued⟩
  | proceed late => exact listed.proceeds tidy (world.proceeds late)

/-- There are at most as many records as queues. -/
theorem Listed.length_le (listed : Listed world) : world.procs.length ≤ world.queues.length := by
  rw [← List.length_map Prod.fst]
  exact (listed.single.subperm listed.queued).length_le

end Records

namespace Standalone

/-- The stages in which no call of the supervisor goes on. -/
def Stage.polls : Stage → Bool
  | .looping | .checking _ | .sleeping => true
  | .starting | .restarting _ | .stopping | .exited => false

/-- The invariant of the process. -/
structure Kept (main : Standalone) : Prop extends Tended main.toWorld, Listed main.toWorld where
  starting : main.stage = .starting → main.flag = false
  returned : main.stage.polls = true → main.Returned
  stopAll : main.stage = .stopping → main.operation = some .stopAll
  ended : main.stage = .exited → main.flag = true →
    main.operation = some .stopAll ∧ main.Returned

/-- The most steps the process may still take before it begins a round anew. -/
def rank (main : Standalone) : Nat :=
  match main.stage with
  | .starting | .exited => 0
  | .stopping => main.toWorld.rank + 1
  | .looping => 4 * main.queues.length + 2
  | .sleeping => 4 * main.queues.length + 3
  | .checking queues => 4 * main.queues.length + 6 * queues.length + 4
  | .restarting rest => main.toWorld.rank + 4 * main.queues.length + 6 * rest.length + 5

section Steps

variable {main : Standalone}

/-- What becomes of the supervisor leaves it in order. -/
theorem Kept.world (kept : main.Kept) (label : Label) :
    Tended (main.step label).toWorld ∧ Listed (main.step label).toWorld := by
  obtain ⟨labels, same, _⟩ := main.toWorld_step label
  rw [same]
  have preserved (world : World) (label : Supervision.Label)
      (before : Tended world ∧ Listed world) :
      Tended (world.step label) ∧ Listed (world.step label) :=
    ⟨before.1.step label, before.2.step before.1.toTidy label⟩
  exact foldl_of_invariant preserved ⟨kept.toTended, kept.toListed⟩ labels

theorem Kept.step (kept : main.Kept) (label : Label) : (main.step label).Kept := by
  obtain ⟨tended, listed⟩ := kept.world label
  have advances := main.advances label
  generalize main.step label = later at advances tended listed
  cases advances with
  | rests => exact kept
  | interrupted here | failed _ here =>
      refine ⟨tended, listed, nofun, nofun, nofun, fun _ flag => ?_⟩
      cases (kept.starting here).symm.trans flag
  | signalled starting exited =>
      exact ⟨tended, listed, fun here => absurd here starting, kept.returned, kept.stopAll,
        fun here => absurd here exited⟩
  | exit pid =>
      exact ⟨tended, listed, kept.starting, kept.returned, kept.stopAll, kept.ended⟩
  | proceeded told exited busy =>
      refine ⟨tended, listed, kept.starting, fun polls => ?_, fun here => ?_, fun here => ?_⟩
      · exact absurd (kept.returned polls) busy
      · exact (main.toWorld.proceeds told).operation.1.trans (kept.stopAll here)
      · exact absurd here exited
  | started _ _ returned | begins _ _ returned | sleeps _ _ returned | restarted _ _ returned
  | wakes _ _ returned => exact ⟨tended, listed, nofun, fun _ => returned, nofun, nofun⟩
  | quits _ _ returned | raises _ _ returned =>
      refine ⟨tended, listed, nofun, nofun, fun _ => ?_, nofun⟩
      dsimp only [Standalone.stopAll, supervise, World.step]
      rw [if_pos returned]
  | @checked told queue rest _ returned =>
      unfold check at tended listed ⊢
      split at tended
      · next running =>
          rw [if_pos running] at listed ⊢
          exact ⟨tended, listed, nofun, fun _ => World.returned_of_isRunning returned, nofun, nofun⟩
      · next dead =>
          rw [if_neg dead] at listed ⊢
          exact ⟨tended, listed, nofun, nofun, nofun, nofun⟩
  | stopped _ here returned =>
      exact ⟨tended, listed, nofun, nofun, nofun, fun _ _ => ⟨kept.stopAll here, returned⟩⟩

theorem World.rank_operate {world : World} (returned : world.Returned) (operation : Operation) :
    (world.step (.operate operation)).rank = 4 * (world.script operation).length := by
  rw [World.step, if_pos returned]
  simp [World.rank, returned.1, Phase.rank]

/-- `stop_all` goes through the records, of which there is one for each queue at most. -/
theorem Kept.rank_stopAll (kept : main.Kept) (returned : main.Returned) :
    main.stopAll.rank ≤ 4 * main.queues.length + 1 := by
  have records := kept.toListed.length_le
  have stops := World.rank_operate returned .stopAll
  rw [Supervisor.script, List.length_map] at stops
  dsimp only [rank, Standalone.stopAll, supervise]
  omega

theorem rank_check (told : Bool) (queue : String) (rest : List String)
    (returned : main.Returned) : (main.check told queue rest).rank ≤
      4 * main.queues.length + 6 * rest.length + 9 := by
  let asked := main.toWorld.step (.operate (.isRunning queue))
  let polled := asked.step (.proceed told)
  have queues : polled.queues = main.queues :=
    (asked.queues_step (.proceed told)).trans (main.toWorld.queues_step (.operate _))
  unfold check
  split
  · change 4 * polled.queues.length + 6 * rest.length + 4 ≤ _
    rw [queues]
    omega
  · have starts : (polled.step (.operate (.start queue))).rank = 4 :=
      World.rank_operate (World.returned_of_isRunning returned) (.start queue)
    have same : (polled.step (.operate (.start queue))).queues = main.queues :=
      (polled.queues_step (.operate _)).trans queues
    change (polled.step (.operate (.start queue))).rank +
      4 * (polled.step (.operate (.start queue))).queues.length + 6 * rest.length + 5 ≤ _
    rw [starts, same]
    omega

/-- What the process does costs it steps, unless it begins a round or is not yet told. -/
theorem Kept.rank_proceed (kept : main.Kept) (told : Bool) :
    main.stage = .exited ∨ (main.step (.proceed told)).rank < main.rank ∨
      main.flag = false ∧
        (main.step (.proceed told)).rank ≤ 10 * main.queues.length + 4 := by
  have advances := main.advances (.proceed told)
  generalize main.step (.proceed told) = later at advances
  cases advances with
  | rests here => exact Or.inl here
  | proceeded _ exited busy =>
      right
      have step := main.toWorld.proceeds told
      have fewer : (main.toWorld.proceed told).rank < main.toWorld.rank := step.rank_lt busy
      have queues : (main.toWorld.proceed told).queues = main.queues := step.operation.2.2.1
      cases here : main.stage with
      | exited => exact absurd here exited
      | looping | checking | sleeping =>
          exact absurd (kept.returned (congrArg Stage.polls here)) busy
      | starting =>
          exact Or.inr ⟨kept.starting here, by simp [rank, supervise, here]⟩
      | restarting rest | stopping =>
          left
          simp only [rank, supervise, here, World.step, queues]
          omega
  | failed _ here | started _ here =>
      exact Or.inr (Or.inr ⟨kept.starting here, by simp [rank, exiting]; try omega⟩)
  | begins _ here _ flag =>
      refine Or.inr (Or.inr ⟨flag, ?_⟩)
      dsimp only [rank]
      omega
  | quits _ here returned =>
      have stops := kept.rank_stopAll returned
      have before : main.rank = 4 * main.queues.length + 2 := by rw [rank, here]
      exact Or.inr (Or.inl (by omega))
  | @raises _ rest here returned =>
      have stops := kept.rank_stopAll returned
      have before : main.rank =
          main.toWorld.rank + 4 * main.queues.length + 6 * rest.length + 5 := by rw [rank, here]
      exact Or.inr (Or.inl (by omega))
  | @checked _ queue rest here returned =>
      have checks := rank_check told queue rest returned
      have before : main.rank = 4 * main.queues.length + 6 * (rest.length + 1) + 4 := by
        rw [rank, here]
        rfl
      exact Or.inr (Or.inl (by omega))
  | sleeps _ here | restarted _ here | wakes _ here | stopped _ here =>
      right
      left
      simp only [rank, exiting, here, List.length_nil]
      omega

/-- What is not done by the process costs it nothing. -/
theorem rank_of_not_proceeds (label : Label) (other : label.proceeds = false) :
    (main.step label).rank ≤ main.rank := by
  cases label with
  | proceed => cases other
  | exit pid => exact Nat.le_refl _
  | signal =>
      dsimp only [Standalone.step]
      split
      · exact Nat.zero_le _
      · split <;> exact Nat.le_refl _

theorem exited_step (here : main.stage = .exited) (label : Label) :
    (main.step label).stage = .exited := by
  cases label with
  | exit pid => exact here
  | signal => simp [Standalone.step, here]
  | proceed told => simp [Standalone.step, goOn, here]

/-- The flag stays set. -/
theorem flag_step (flag : main.flag = true) (label : Label) : (main.step label).flag = true := by
  have advances := main.advances label
  generalize main.step label = later at advances
  cases advances with
  | signalled => rfl
  | checked =>
      unfold check
      split <;> exact flag
  | _ => exact flag

theorem rank_of_exited (here : main.stage = .exited) : main.rank = 0 := by
  rw [rank, here]

/-- Once the flag is set, the process ends as soon as it has taken the steps it may. -/
theorem Kept.exits (kept : main.Kept) (flag : main.flag = true) {labels : List Label}
    (enough : main.rank ≤ labels.countP Label.proceeds) :
    (labels.foldl Standalone.step main).stage = .exited := by
  induction labels generalizing main with
  | nil =>
      have spent : main.rank = 0 := Nat.le_zero.mp enough
      unfold rank at spent
      cases here : main.stage with
      | exited => exact here
      | starting => cases (kept.starting here).symm.trans flag
      | looping | checking | restarting | sleeping | stopping => simp [here] at spent
  | cons label rest ih =>
      apply ih (kept.step label) (flag_step flag label)
      cases proceeds : label.proceeds with
      | false =>
          rw [List.countP_cons_of_neg (by simp [proceeds])] at enough
          exact Nat.le_trans (rank_of_not_proceeds label proceeds) enough
      | true =>
          rw [List.countP_cons_of_pos proceeds] at enough
          cases label with
          | signal | exit => cases proceeds
          | proceed told =>
              rcases kept.rank_proceed told with here | fewer | ⟨unset, _⟩
              · rw [rank_of_exited (exited_step here _)]
                exact Nat.zero_le _
              · omega
              · cases unset.symm.trans flag

end Steps

theorem kept_init : init.Kept := by
  have tended : Tended (World.init []) := ⟨tidy_init [], nofun⟩
  have listed : Listed (World.init []) := ⟨List.nodup_nil, nofun⟩
  exact ⟨tended.step (.operate .startAll), listed.step tended.toTidy (.operate .startAll),
    fun _ => rfl, nofun, nofun, nofun⟩

theorem kept_run (labels : List Label) : (run labels).Kept := by
  have kept (main : Standalone) (label : Label) (kept : main.Kept) : (main.step label).Kept :=
    kept.step label
  exact foldl_of_invariant kept kept_init labels

/-- However long it has run, the process has only so many steps to take until it begins a
round anew. -/
theorem rank_run (labels : List Label) :
    (run labels).rank ≤ 10 * allTaskQueues.length + 4 := by
  induction labels using List.reverseRecOn with
  | nil => exact Nat.zero_le _
  | append_singleton before label ih =>
      have kept := kept_run before
      have queues := queues_run before
      rw [run, List.foldl_append, ← run, List.foldl_cons, List.foldl_nil]
      cases label with
      | signal => exact Nat.le_trans (rank_of_not_proceeds .signal rfl) ih
      | exit pid => exact Nat.le_trans (rank_of_not_proceeds (.exit pid) rfl) ih
      | proceed told =>
          rcases kept.rank_proceed told with here | fewer | ⟨_, bound⟩
          · rw [rank_of_exited (exited_step here _)]
            exact Nat.zero_le _
          · omega
          · rwa [queues] at bound

/-- A signal that comes once the handlers are installed ends the process, within as many of
its own steps as the loop and `stop_all` may take, whatever they are told; and each worker
that runs by then was told to stop. -/
theorem standalone_shuts_down {before after : List Label}
    (installed : (run before).stage ≠ .starting) (running : (run before).stage ≠ .exited)
    (enough : 10 * allTaskQueues.length + 4 ≤ after.countP Label.proceeds) :
    (run (before ++ .signal :: after)).stage = .exited ∧
      ∀ proc ∈ (run (before ++ .signal :: after)).table, proc.life = .running →
        proc.terminated = true := by
  have told : ((run before).step .signal).flag = true := by
    simp [step, installed, running]
  have split : run (before ++ .signal :: after) = after.foldl step ((run before).step .signal) :=
    List.foldl_append
  have kept : ((run before).step .signal).Kept := (kept_run before).step .signal
  have bound : ((run before).step .signal).rank ≤ after.countP Label.proceeds :=
    Nat.le_trans (Nat.le_trans (rank_of_not_proceeds .signal rfl) (rank_run before)) enough
  have exited : (run (before ++ .signal :: after)).stage = .exited := by
    rw [split]
    exact kept.exits told bound
  have flag : (run (before ++ .signal :: after)).flag = true := by
    have stays (main : Standalone) (label : Label) (flag : main.flag = true) :
        (main.step label).flag = true := flag_step flag label
    rw [split]
    exact foldl_of_invariant stays told after
  have final := kept_run (before ++ .signal :: after)
  obtain ⟨stopAll, returned⟩ := final.ended exited flag
  exact ⟨exited, final.toTended.supervised.stopped stopAll returned⟩

/-- The seven workers are started, two steps for each, and the handlers installed. -/
def fleetUp : List Label := List.replicate 15 (.proceed true)

/-- No worker exits: each is told to stop, waited for and killed. -/
def fleetKilled : List Label := List.replicate 74 (.proceed false)

theorem standalone_shuts_down_of_signal :
    (run (fleetUp ++ .signal :: fleetKilled)).stage = .exited ∧
      ∀ proc ∈ (run (fleetUp ++ .signal :: fleetKilled)).table, proc.life = .running →
        proc.terminated = true := by
  have installed : (run fleetUp).stage ≠ .starting := by decide
  have running : (run fleetUp).stage ≠ .exited := by decide
  have enough : 10 * allTaskQueues.length + 4 ≤ fleetKilled.countP Label.proceeds := by decide
  exact standalone_shuts_down installed running enough

end Standalone

end WardenDemo.Supervision
