import WardenDemo.Supervision.Startup

/-!
# The fleet on its own

`_run_standalone` starts all workers, and only then installs its handlers and enters the
`try` whose `finally` stops them. Its loop looks at one queue after the other, starts the
workers that have died, and sleeps. A signal sets a flag, which the loop tests before each
round; before the handlers are installed it ends the process there and then.
-/

namespace WardenDemo.Supervision

open Fold

/-- What `is_running` returns. -/
def World.isRunning (told : Bool) (queue : String) (world : World) : Bool :=
  (world.procs.lookup queue).any (world.looksAlive told)

/-- `is_running` returns at once. -/
theorem World.returned_of_isRunning {world : World} {late : Bool} {queue : String}
    (returned : world.Returned) :
    ((world.step (.operate (.isRunning queue))).step (.proceed late)).Returned := by
  rw [World.step, if_pos returned, World.step, World.proceed, returned.1]
  dsimp only [Supervisor.script, World.call, World.poll]
  split <;> exact ⟨rfl, rfl⟩

theorem World.queues_step (world : World) (label : Label) :
    (world.step label).queues = world.queues := by
  cases label with
  | operate operation =>
      dsimp only [World.step]
      split <;> rfl
  | exit pid => rfl
  | proceed late => exact (world.proceeds late).operation.2.2.1

/-- How far `_run_standalone` has come; its loop is given the queues it has yet to look at. -/
inductive Standalone.Stage where
  | starting
  | looping
  | checking (queues : List String)
  | restarting (rest : List String)
  | sleeping
  | stopping
  | exited
deriving DecidableEq, Repr

inductive Standalone.Label where
  | signal
  | exit (pid : Nat)
  | proceed (told : Bool)
deriving DecidableEq, Repr

/-- The process goes on with what it does. -/
def Standalone.Label.proceeds : Standalone.Label → Bool
  | .proceed _ => true
  | .signal | .exit _ => false

/-- The variables of `_run_standalone`: the supervisor among its workers, and the flag. -/
structure Standalone extends World where
  stage : Standalone.Stage := .starting
  flag : Bool := false
deriving Repr

namespace Standalone

variable (main : Standalone)

def init : Standalone := { toWorld := (World.init []).step (.operate .startAll) }

/-- The supervisor takes a step. -/
def supervise (label : Supervision.Label) : Standalone :=
  { main with toWorld := main.toWorld.step label }

/-- An exception that is not caught, or the end of the `finally`. -/
def exiting : Standalone := { main with stage := .exited }

/-- The `finally`. -/
def stopAll : Standalone := { main.supervise (.operate .stopAll) with stage := .stopping }

/-- A worker that is not running is started anew. -/
def check (told : Bool) (queue : String) (rest : List String) : Standalone :=
  let polled := (main.supervise (.operate (.isRunning queue))).supervise (.proceed told)
  if main.isRunning told queue then { polled with stage := .checking rest }
  else { polled.supervise (.operate (.start queue)) with stage := .restarting rest }

/-- What follows once the supervisor has returned. -/
def goOn (told : Bool) : Standalone :=
  match main.stage with
  | .starting => if main.raised then main.exiting else { main with stage := .looping }
  | .looping => if main.flag then main.stopAll else { main with stage := .checking main.queues }
  | .checking [] => { main with stage := .sleeping }
  | .checking (queue :: rest) => main.check told queue rest
  | .restarting rest =>
      if main.raised then main.stopAll else { main with stage := .checking rest }
  | .sleeping => { main with stage := .looping }
  | .stopping => main.exiting
  | .exited => main

def step : Label → Standalone
  | .signal =>
      if main.stage = .starting then main.exiting
      else if main.stage = .exited then main
      else { main with flag := true }
  | .exit pid => main.supervise (.exit pid)
  | .proceed told =>
      if main.stage = .exited ∨ main.Returned then main.goOn told
      else main.supervise (.proceed told)

/-- The process after a run from its start. -/
def run (labels : List Label) : Standalone := labels.foldl step init

/-- What a step of the process does. -/
inductive Advances (main : Standalone) : Label → Standalone → Prop where
  | rests {label : Label} (here : main.stage = .exited) (signal : ∀ pid, label ≠ .exit pid) :
      Advances main label main
  | interrupted (here : main.stage = .starting) : Advances main .signal main.exiting
  | signalled (starting : main.stage ≠ .starting) (exited : main.stage ≠ .exited) :
      Advances main .signal { main with flag := true }
  | exit (pid : Nat) : Advances main (.exit pid) (main.supervise (.exit pid))
  | proceeded (told : Bool) (exited : main.stage ≠ .exited) (busy : ¬ main.Returned) :
      Advances main (.proceed told) (main.supervise (.proceed told))
  | failed (told : Bool) (here : main.stage = .starting) (returned : main.Returned)
      (raised : main.raised = true) : Advances main (.proceed told) main.exiting
  | started (told : Bool) (here : main.stage = .starting) (returned : main.Returned)
      (raised : main.raised = false) :
      Advances main (.proceed told) { main with stage := .looping }
  | quits (told : Bool) (here : main.stage = .looping) (returned : main.Returned)
      (flag : main.flag = true) : Advances main (.proceed told) main.stopAll
  | begins (told : Bool) (here : main.stage = .looping) (returned : main.Returned)
      (flag : main.flag = false) :
      Advances main (.proceed told) { main with stage := .checking main.queues }
  | checked (told : Bool) {queue : String} {rest : List String}
      (here : main.stage = .checking (queue :: rest)) (returned : main.Returned) :
      Advances main (.proceed told) (main.check told queue rest)
  | sleeps (told : Bool) (here : main.stage = .checking []) (returned : main.Returned) :
      Advances main (.proceed told) { main with stage := .sleeping }
  | raises (told : Bool) {rest : List String} (here : main.stage = .restarting rest)
      (returned : main.Returned) (raised : main.raised = true) :
      Advances main (.proceed told) main.stopAll
  | restarted (told : Bool) {rest : List String} (here : main.stage = .restarting rest)
      (returned : main.Returned) (raised : main.raised = false) :
      Advances main (.proceed told) { main with stage := .checking rest }
  | wakes (told : Bool) (here : main.stage = .sleeping) (returned : main.Returned) :
      Advances main (.proceed told) { main with stage := .looping }
  | stopped (told : Bool) (here : main.stage = .stopping) (returned : main.Returned) :
      Advances main (.proceed told) main.exiting

/-- The step the process takes is one of these. -/
theorem advances (label : Label) : Advances main label (main.step label) := by
  cases label with
  | signal =>
      dsimp only [step]
      split
      · next starting => exact .interrupted starting
      · next starting =>
          split
          · next exited => exact .rests exited nofun
          · next exited => exact .signalled starting exited
  | exit pid => exact .exit pid
  | proceed told =>
      dsimp only [step]
      by_cases ended : main.stage = .exited
      · rw [if_pos (Or.inl ended), goOn, ended]
        exact .rests ended nofun
      by_cases returned : main.Returned
      · rw [if_pos (Or.inr returned), goOn]
        cases here : main.stage with
        | starting =>
            cases raised : main.raised with
            | true => exact .failed told here returned raised
            | false => exact .started told here returned raised
        | looping =>
            dsimp only
            split
            · next flag => exact .quits told here returned flag
            · next flag => exact .begins told here returned (eq_false_of_ne_true flag)
        | checking queues =>
            cases queues with
            | nil => exact .sleeps told here returned
            | cons queue rest => exact .checked told here returned
        | restarting rest =>
            cases raised : main.raised with
            | true => exact .raises told here returned raised
            | false => exact .restarted told here returned raised
        | sleeping => exact .wakes told here returned
        | stopping => exact .stopped told here returned
        | exited => exact absurd here ended
      · rw [if_neg (by simp [ended, returned])]
        exact .proceeded told ended returned

/-- A step of the process is a run of the supervisor. -/
theorem toWorld_step (main : Standalone) (label : Label) :
    ∃ labels : List Supervision.Label,
      (main.step label).toWorld = labels.foldl World.step main.toWorld ∧
      ∀ pid, .exit pid ∈ labels → label = .exit pid := by
  have advances := main.advances label
  generalize main.step label = later at advances
  cases advances with
  | rests | interrupted | signalled | failed | started | begins | sleeps | restarted | wakes
  | stopped => exact ⟨[], rfl, nofun⟩
  | exit pid =>
      refine ⟨[.exit pid], rfl, fun other mem => ?_⟩
      cases List.mem_singleton.mp mem
      rfl
  | proceeded told => exact ⟨[.proceed told], rfl, by simp⟩
  | quits | raises => exact ⟨[.operate .stopAll], rfl, by simp⟩
  | @checked told queue rest =>
      unfold check
      split
      · exact ⟨[.operate (.isRunning queue), .proceed told], rfl, by simp⟩
      · exact ⟨[.operate (.isRunning queue), .proceed told, .operate (.start queue)], rfl, by simp⟩

theorem queues_step (main : Standalone) (label : Label) :
    (main.step label).queues = main.queues := by
  obtain ⟨labels, same, _⟩ := main.toWorld_step label
  rw [same]
  have kept (world : World) (label : Supervision.Label) (before : world.queues = main.queues) :
      (world.step label).queues = main.queues := (world.queues_step label).trans before
  exact foldl_of_invariant kept rfl labels

theorem queues_run (labels : List Label) : (run labels).queues = allTaskQueues := by
  have kept (main : Standalone) (label : Label) (before : main.queues = allTaskQueues) :
      (main.step label).queues = allTaskQueues := (main.queues_step label).trans before
  exact foldl_of_invariant kept rfl labels

end Standalone

end WardenDemo.Supervision
