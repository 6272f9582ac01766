/-!
# Durable workflows

A durable workflow is an object, signal handlers which rewrite it, and one run
coroutine which awaits. The server drives it in activations: the signals of an
activation are handled in order, at most one await is resolved, and then the
coroutine advances until it suspends again, closes, or continues as new.

`Workflow.step` is the coroutine, one program point at a time. Everything a
workflow can do is a `Chain`: the activations of a first run and of the runs
that succeed it through continue-as-new.
-/

namespace WardenDemo.Durable

/-- How the server resolves the await a run coroutine is suspended on. -/
inductive Resolution where
  | activityCompleted
  | activityFailed
  | localActivityCompleted
  | timerFired
  | signalSent
  | signalFailed
  | childStarted
  | childFailed
deriving DecidableEq, Repr

/-- What the run coroutine does at one program point. -/
inductive Action (Input Obj Pc Command Result : Type) where
  | proceed (pc : Pc) (obj : Obj) (commands : List Command)
  | suspend
  | continueAsNew (input : Input) (commands : List Command)
  | complete (result : Result)
  | fail

/-- A workflow type. `step` takes the current history length first; `resume`
says which program point an await continues from once it is resolved. -/
structure Workflow (Input Signal Obj Pc Command Result : Type) where
  init : Obj
  handle : Signal → Obj → Obj
  entry : Input → Pc
  step : Nat → Pc → Obj → Action Input Obj Pc Command Result
  resume : Resolution → Pc → Obj → Option Pc

/-- What is observed of a chain. A handled signal keeps the program point and
the object it was handled at; `advanced` marks the state from which an
activation runs the coroutine, after its signals. -/
inductive Event (Input Signal Obj Pc Command Result : Type) where
  | handled (pc : Pc) (before : Obj) (signal : Signal)
  | resolved (pc : Pc) (resolution : Resolution)
  | advanced (pc : Pc) (obj : Obj) (history : Nat)
  | issued (command : Command)
  | continuedAsNew (input : Input)
  | completed (result : Result)
  | failed

/-- A chain between two activations. -/
inductive Config (Obj Pc Result : Type) where
  | running (pc : Pc) (obj : Obj) (history : Nat)
  | completed (result : Result)
  | failed

/-- What the server hands to the worker in one workflow task. -/
structure Activation (Signal : Type) where
  signals : List Signal
  wake : Option Resolution
  history : Nat

variable {Input Signal Obj Pc Command Result : Type}

namespace Workflow

variable (w : Workflow Input Signal Obj Pc Command Result)

/-- The configuration of a run which has had no activation yet. -/
def fresh (input : Input) : Config Obj Pc Result :=
  .running (w.entry input) w.init 0

/-- The object once a batch of signals has been handled in order. -/
def handleAll (signals : List Signal) (obj : Obj) : Obj :=
  signals.foldl (fun current signal => w.handle signal current) obj

@[simp] theorem handleAll_nil (obj : Obj) : w.handleAll [] obj = obj := rfl

@[simp] theorem handleAll_cons (signal : Signal) (rest : List Signal) (obj : Obj) :
    w.handleAll (signal :: rest) obj = w.handleAll rest (w.handle signal obj) := rfl

/-- The events of a batch of signals handled at one program point. -/
def handledEvents (pc : Pc) : Obj → List Signal →
    List (Event Input Signal Obj Pc Command Result)
  | _, [] => []
  | obj, signal :: rest =>
      .handled pc obj signal :: handledEvents pc (w.handle signal obj) rest

@[simp] theorem handledEvents_nil (pc : Pc) (obj : Obj) :
    (w.handledEvents pc obj [] : List (Event Input Signal Obj Pc Command Result)) = [] := rfl

/-- Resolve the await at a program point, if the activation resolves one. -/
def wakeAt (wake : Option Resolution) (pc : Pc) (obj : Obj) :
    Option (Pc × List (Event Input Signal Obj Pc Command Result)) :=
  match wake with
  | none => some (pc, [])
  | some resolution =>
      (w.resume resolution pc obj).map fun next => (next, [.resolved pc resolution])

/-- The coroutine runs from a program point until the activation ends. -/
inductive Advance (history : Nat) : Pc → Obj →
    List (Event Input Signal Obj Pc Command Result) → Config Obj Pc Result → Prop where
  | suspend {pc obj} (here : w.step history pc obj = .suspend) :
      Advance history pc obj [] (.running pc obj history)
  | proceed {pc obj next obj' commands events config}
      (here : w.step history pc obj = .proceed next obj' commands)
      (rest : Advance history next obj' events config) :
      Advance history pc obj (commands.map .issued ++ events) config
  | continueAsNew {pc obj input commands}
      (here : w.step history pc obj = .continueAsNew input commands) :
      Advance history pc obj (commands.map .issued ++ [.continuedAsNew input])
        (w.fresh input)
  | complete {pc obj result} (here : w.step history pc obj = .complete result) :
      Advance history pc obj [.completed result] (.completed result)
  | fail {pc obj} (here : w.step history pc obj = .fail) :
      Advance history pc obj [.failed] .failed

/-- One activation of a running workflow. -/
inductive Activate (activation : Activation Signal) : Config Obj Pc Result →
    List (Event Input Signal Obj Pc Command Result) → Config Obj Pc Result → Prop where
  | mk {pc obj history next woken events config}
      (later : history ≤ activation.history)
      (wake : w.wakeAt activation.wake pc (w.handleAll activation.signals obj) =
        some (next, woken))
      (advance : w.Advance activation.history next
        (w.handleAll activation.signals obj) events config) :
      Activate activation (.running pc obj history)
        (w.handledEvents pc obj activation.signals ++ woken ++
          .advanced next (w.handleAll activation.signals obj) activation.history ::
            events)
        config

/-- Every activation of a first run and of its successors: the trace so far
and the configuration it ends in. A signal which arrives after continue-as-new
is handled by the next run, at the earliest in its first activation. -/
inductive Chain (start : Input) :
    List (Event Input Signal Obj Pc Command Result) → Config Obj Pc Result → Prop where
  | start : Chain start [] (w.fresh start)
  | activate {trace config activation events config'}
      (prior : Chain start trace config)
      (activated : w.Activate activation config events config') :
      Chain start (trace ++ events) config'

/-- Where an activation may find a run: before its first one, or suspended. -/
def Parked (pc : Pc) (obj : Obj) (history : Nat) : Prop :=
  (∃ input, pc = w.entry input ∧ obj = w.init ∧ history = 0) ∨
    w.step history pc obj = .suspend

variable {w}

/-- An activation which only handles signals before the coroutine advances. -/
theorem Activate.of_signals {signals : List Signal} {pc : Pc} {obj obj' : Obj}
    {history history' : Nat} {events : List (Event Input Signal Obj Pc Command Result)}
    {config : Config Obj Pc Result} (later : history ≤ history')
    (handled : w.handleAll signals obj = obj')
    (advance : w.Advance history' pc obj' events config) :
    w.Activate ⟨signals, none, history'⟩ (.running pc obj history)
      (w.handledEvents pc obj signals ++ .advanced pc obj' history' :: events) config := by
  subst handled
  have activated : w.Activate ⟨signals, none, history'⟩ _ _ _ := .mk later rfl advance
  simpa using activated

/-- Advancing ends parked, unless the workflow closes. -/
theorem Advance.parked {history : Nat} {pc : Pc} {obj : Obj}
    {events : List (Event Input Signal Obj Pc Command Result)}
    {config : Config Obj Pc Result} (advance : w.Advance history pc obj events config)
    {pc' : Pc} {obj' : Obj} {history' : Nat}
    (ends : config = .running pc' obj' history') : w.Parked pc' obj' history' := by
  induction advance with
  | suspend here =>
      cases ends
      exact Or.inr here
  | proceed _ _ ih => exact ih ends
  | continueAsNew _ =>
      cases ends
      exact Or.inl ⟨_, rfl, rfl, rfl⟩
  | complete _ => cases ends
  | fail _ => cases ends

/-- Every configuration a chain is left running in is parked. -/
theorem Chain.parked {start : Input}
    {trace : List (Event Input Signal Obj Pc Command Result)}
    {pc : Pc} {obj : Obj} {history : Nat}
    (chain : w.Chain start trace (.running pc obj history)) : w.Parked pc obj history := by
  generalize ends : Config.running pc obj history = config at chain
  cases chain with
  | start =>
      cases ends
      exact Or.inl ⟨start, rfl, rfl, rfl⟩
  | activate _ activated =>
      cases activated with
      | mk _ _ advance => exact advance.parked ends.symm

end Workflow

end WardenDemo.Durable
