import WardenDemo.Supervision.Transitions
import WardenDemo.Traffic.Loops

/-!
# The lifespan of the dashboard

In process mode the dashboard spawns the workers, connects, ensures the control
workflow and only then yields to the server, inside the `try` whose `finally` stops
the workers. An exception before the yield ends the lifespan there and then.

The calls of the supervisor are made by one thread, so they are followed call by call
and a worker may exit at any time.
-/

namespace WardenDemo.Supervision

open Traffic (Config Reply tolerate)

/-- The connection config is checked before the client connects. -/
def connect (config : Config) (reply : Reply) : Reply :=
  if config.address.isEmpty ∨ config.namespaceId.isEmpty ∨ config.apiKey.isEmpty then
    .error .other
  else reply

/-- How far `lifespan` has come; it is `up` where it yields. -/
inductive Stage where
  | loading
  | starting
  | connecting
  | ensuring
  | up
  | stopping
  | exited
deriving DecidableEq, Repr

/-- The stages outside the `try`. -/
def Stage.startup : Stage → Bool
  | .loading | .starting | .connecting | .ensuring => true
  | .up | .stopping | .exited => false

/-- The stages of the startup in which no call of the supervisor goes on. -/
def Stage.waiting : Stage → Bool
  | .loading | .connecting | .ensuring => true
  | .starting | .up | .stopping | .exited => false

/-- What `lifespan` waits for, what requests ask of the supervisor, and what the
supervisor and the workers do. -/
inductive Lifespan.Label where
  | load (config : Option Config)
  | connect (reply : Reply)
  | ensure (reply : Reply)
  | request (operation : Operation)
  | shutdown
  | exit (pid : Nat)
  | proceed (told : Bool)

/-- The supervisor goes on with an operation. -/
def Lifespan.Label.proceeds : Lifespan.Label → Bool
  | .proceed _ => true
  | .load _ | .connect _ | .ensure _ | .request _ | .shutdown | .exit _ => false

/-- The variables of `lifespan`: the supervisor among its workers, and the config. -/
structure Lifespan extends World where
  stage : Stage := .loading
  config : Config := {}
deriving Repr

namespace Lifespan

variable (dashboard : Lifespan)

def init (queues : List String) : Lifespan := { toWorld := World.init queues }

/-- The supervisor takes a step. -/
def supervise (label : Supervision.Label) : Lifespan :=
  { dashboard with toWorld := dashboard.toWorld.step label }

/-- An exception that is not caught, or the end of the `finally`. -/
def exiting : Lifespan := { dashboard with stage := .exited }

def load : Option Config → Lifespan
  | none => dashboard.exiting
  | some config =>
      { dashboard.supervise (.operate .startAll) with stage := .starting, config := config }

/-- What follows a call of the client that may raise. -/
def after (reply : Reply) (stage : Stage) : Lifespan :=
  match reply with
  | .ok _ => { dashboard with stage := stage }
  | .error _ => dashboard.exiting

/-- What follows a call of the supervisor, once it has returned. -/
def resume : Lifespan :=
  if dashboard.Returned then
    match dashboard.stage with
    | .starting =>
        if dashboard.raised then dashboard.exiting else { dashboard with stage := .connecting }
    | .stopping => dashboard.exiting
    | .loading | .connecting | .ensuring | .up | .exited => dashboard
  else dashboard

def step : Label → Lifespan
  | .load config => if dashboard.stage = .loading then dashboard.load config else dashboard
  | .connect reply =>
      if dashboard.stage = .connecting then
        dashboard.after (connect dashboard.config reply) .ensuring
      else dashboard
  | .ensure reply =>
      if dashboard.stage = .ensuring then dashboard.after (tolerate reply) .up else dashboard
  | .request operation =>
      if dashboard.stage = .up then dashboard.supervise (.operate operation) else dashboard
  | .shutdown =>
      if dashboard.stage = .up ∧ dashboard.Returned then
        { dashboard.supervise (.operate .stopAll) with stage := .stopping }
      else dashboard
  | .exit pid => dashboard.supervise (.exit pid)
  | .proceed told => (dashboard.supervise (.proceed told)).resume

/-- The step fails the startup. -/
def Fails : Label → Prop
  | .load config => dashboard.stage = .loading ∧ config = none
  | .connect reply =>
      dashboard.stage = .connecting ∧ ∃ error, connect dashboard.config reply = .error error
  | .ensure reply => dashboard.stage = .ensuring ∧ ∃ error, tolerate reply = .error error
  | .proceed spawned =>
      dashboard.stage = .starting ∧ (∃ queue, dashboard.phase = .spawn queue) ∧ spawned = false
  | .request _ | .shutdown | .exit _ => False

/-- What a step of the lifespan does. -/
inductive Advances (dashboard : Lifespan) : Label → Lifespan → Prop where
  | ignored {label : Label} (goesOn : ¬ dashboard.Fails label) :
      Advances dashboard label dashboard
  | failed {label : Label} (early : dashboard.stage.startup = true)
      (fails : dashboard.Fails label) : Advances dashboard label dashboard.exiting
  | loaded {config : Config} (here : dashboard.stage = .loading) :
      Advances dashboard (.load (some config))
        { dashboard.supervise (.operate .startAll) with stage := .starting, config := config }
  | connected {reply : Reply} (here : dashboard.stage = .connecting)
      (ok : connect dashboard.config reply = .ok ()) :
      Advances dashboard (.connect reply) { dashboard with stage := .ensuring }
  | ensured {reply : Reply} (here : dashboard.stage = .ensuring) (ok : tolerate reply = .ok ()) :
      Advances dashboard (.ensure reply) { dashboard with stage := .up }
  | requested {operation : Operation} (here : dashboard.stage = .up) :
      Advances dashboard (.request operation) (dashboard.supervise (.operate operation))
  | shutDown (here : dashboard.stage = .up) (returned : dashboard.Returned) :
      Advances dashboard .shutdown
        { dashboard.supervise (.operate .stopAll) with stage := .stopping }
  | exit (pid : Nat) : Advances dashboard (.exit pid) (dashboard.supervise (.exit pid))
  | proceeded (told : Bool) :
      Advances dashboard (.proceed told) (dashboard.supervise (.proceed told)).resume

/-- The step a lifespan takes is one of these. -/
theorem advances (dashboard : Lifespan) (label : Label) :
    Advances dashboard label (dashboard.step label) := by
  cases label with
  | load config =>
      dsimp only [step]
      split
      · next here =>
          cases config with
          | none => exact .failed (congrArg Stage.startup here) ⟨here, rfl⟩
          | some config => exact .loaded here
      · next other => exact .ignored fun fails => other fails.1
  | connect reply =>
      dsimp only [step]
      split
      · next here =>
          cases replied : connect dashboard.config reply with
          | ok => exact .connected here replied
          | error error =>
              exact .failed (congrArg Stage.startup here) ⟨here, error, replied⟩
      · next other => exact .ignored fun fails => other fails.1
  | ensure reply =>
      dsimp only [step]
      split
      · next here =>
          cases replied : tolerate reply with
          | ok => exact .ensured here replied
          | error error =>
              exact .failed (congrArg Stage.startup here) ⟨here, error, replied⟩
      · next other => exact .ignored fun fails => other fails.1
  | request operation =>
      dsimp only [step]
      split
      · next here => exact .requested here
      · exact .ignored id
  | shutdown =>
      dsimp only [step]
      split
      · next here => exact .shutDown here.1 here.2
      · exact .ignored id
  | exit pid => exact .exit pid
  | proceed told => exact .proceeded told

section Resuming

variable {dashboard : Lifespan}

theorem resume_of_busy (busy : ¬ dashboard.Returned) : dashboard.resume = dashboard :=
  if_neg busy

theorem resume_of_other (starting : dashboard.stage ≠ .starting)
    (stopping : dashboard.stage ≠ .stopping) : dashboard.resume = dashboard := by
  unfold resume
  split
  · split
    · next here => exact absurd here starting
    · next here => exact absurd here stopping
    all_goals rfl
  · rfl

theorem resume_of_starting (starting : dashboard.stage = .starting)
    (returned : dashboard.Returned) : dashboard.resume =
      if dashboard.raised then dashboard.exiting
      else { dashboard with stage := .connecting } := by
  rw [resume, if_pos returned, starting]

theorem resume_of_stopping (stopping : dashboard.stage = .stopping)
    (returned : dashboard.Returned) : dashboard.resume = dashboard.exiting := by
  rw [resume, if_pos returned, stopping]

theorem toWorld_resume : dashboard.resume.toWorld = dashboard.toWorld := by
  unfold resume
  split
  · split
    · split <;> rfl
    all_goals rfl
  · rfl

theorem toWorld_proceed (told : Bool) :
    (dashboard.step (.proceed told)).toWorld = dashboard.toWorld.proceed told :=
  toWorld_resume

/-- What neither starts nor stops the workers stays in its stage. -/
theorem stage_of_other (starting : dashboard.stage ≠ .starting)
    (stopping : dashboard.stage ≠ .stopping) (told : Bool) :
    (dashboard.step (.proceed told)).stage = dashboard.stage := by
  have still : (dashboard.supervise (.proceed told)).stage = dashboard.stage := rfl
  rw [step, resume_of_other (still ▸ starting) (still ▸ stopping)]
  rfl

end Resuming

end Lifespan

end WardenDemo.Supervision
