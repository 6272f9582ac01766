/-!
# The worker supervisor

One child process per task queue. An operation makes calls of `start` and `stop`,
and between any two things these do a child may exit: a call stops before it spawns,
signals or waits, and goes on when the next step is taken.

Operations do not overlap, as they are called from one thread.
-/

namespace WardenDemo.Supervision

def allTaskQueues : List String :=
  ["order-tq", "dispatch-tq", "courier-tq", "batch-tq", "settlement-tq", "menu-tq",
    "control-tq"]

/-- What has become of a child: one that has exited is a zombie until it is reaped. -/
inductive Life where
  | running
  | exited
  | reaped
deriving DecidableEq, Repr

/-- A child process, and the signals that were sent to it. -/
structure Proc where
  queue : String
  life : Life := .running
  terminated : Bool := false
  killed : Bool := false
deriving DecidableEq, Repr

namespace Proc

variable (late : Bool) (proc : Proc)

/-- `poll() is None`. A child that has exited may still be reported alive, `late`,
until it is reaped. -/
def looksAlive : Bool :=
  match proc.life with
  | .running => true
  | .exited => late
  | .reaped => false

/-- Whoever learns that a child is dead has reaped it. -/
def polled : Proc := if proc.looksAlive late then proc else { proc with life := .reaped }

/-- `send_signal` polls first, and signals no child known to be dead. -/
def terminate : Proc :=
  if proc.looksAlive late then { proc with terminated := true }
  else { proc with life := .reaped }

def kill : Proc :=
  if proc.looksAlive late then { proc with killed := true } else { proc with life := .reaped }

def exit : Proc :=
  match proc.life with
  | .running => { proc with life := .exited }
  | .exited | .reaped => proc

end Proc

/-- The methods of `Supervisor`. -/
inductive Operation where
  | start (queue : String)
  | stop (queue : String)
  | restart (queue : String)
  | startAll
  | stopAll
  | isRunning (queue : String)
deriving DecidableEq, Repr

/-- The calls an operation is made of. -/
inductive Call where
  | start (queue : String)
  | stop (queue : String)
  | poll (queue : String)
deriving DecidableEq, Repr

/-- What a call does next, if one is going on. -/
inductive Phase where
  | between
  | spawn (queue : String)
  | terminate (pid : Nat)
  | wait (pid : Nat)
  | kill (pid : Nat)
deriving DecidableEq, Repr

/-- The instance attributes of `Supervisor`; handles are process ids. -/
structure Supervisor where
  queues : List String
  procs : List (String × Nat) := []
deriving Repr

namespace Supervisor

/-- No queues given are all of them. -/
def init (queues : List String) : Supervisor :=
  { queues := if queues.isEmpty then allTaskQueues else queues }

def script (self : Supervisor) : Operation → List Call
  | .start queue => [.start queue]
  | .stop queue => [.stop queue]
  | .restart queue => [.stop queue, .start queue]
  | .startAll => self.queues.map .start
  | .stopAll => self.procs.map fun entry => .stop entry.1
  | .isRunning queue => [.poll queue]

end Supervisor

/-- `_procs[queue] = proc`: a key keeps its place. -/
def record (queue : String) (pid : Nat) : List (String × Nat) → List (String × Nat)
  | [] => [(queue, pid)]
  | (other, handle) :: rest =>
      if queue = other then (queue, pid) :: rest else (other, handle) :: record queue pid rest

/-- The supervisor among the processes it has spawned, by process id, in the course
of its latest operation. `earlier` counts the processes from before it. -/
structure World extends Supervisor where
  table : List Proc := []
  phase : Phase := .between
  calls : List Call := []
  operation : Option Operation := none
  earlier : Nat := 0
  raised : Bool := false
deriving Repr

namespace World

variable (late : Bool) (pid : Nat) (queue : String) (world : World)

def init (queues : List String) : World := { toSupervisor := Supervisor.init queues }

/-- The latest operation has ended. -/
def Returned : Prop := world.phase = .between ∧ world.calls = []

instance : Decidable world.Returned := inferInstanceAs (Decidable (_ ∧ _))

def update (change : Proc → Proc) : World := { world with table := world.table.modify pid change }

def looksAlive : Bool := world.table[pid]?.any (Proc.looksAlive late)

/-- An exception ends the operation. -/
def raising : World := { world with phase := .between, calls := [], raised := true }

def start : World :=
  if queue ∈ world.queues then
    match world.procs.lookup queue with
    | none => { world with phase := .spawn queue }
    | some pid =>
        let polled := world.update pid (Proc.polled late)
        if world.looksAlive late pid then polled else { polled with phase := .spawn queue }
  else world.raising

/-- `Popen` either spawns a process or raises. -/
def spawn (spawned : Bool) : World :=
  if spawned then
    { world with
      table := world.table ++ [{ queue := queue }]
      procs := record queue world.table.length world.procs
      phase := .between }
  else world.raising

def stop : World :=
  match world.procs.lookup queue with
  | none => world
  | some pid =>
      let polled := world.update pid (Proc.polled late)
      if world.looksAlive late pid then { polled with phase := .terminate pid } else polled

/-- `wait` has reaped the child, or its timeout has expired. -/
def wait : World :=
  let waited := world.update pid (Proc.polled late)
  { waited with phase := if world.looksAlive late pid then .kill pid else .between }

def poll : World :=
  match world.procs.lookup queue with
  | none => world
  | some pid => world.update pid (Proc.polled late)

/-- The next call, and what is done in it before it stops. -/
def call : Call → World
  | .start queue => world.start late queue
  | .stop queue => world.stop late queue
  | .poll queue => world.poll late queue

/-- What the operation going on does next; `late` is what it is told by the system. -/
def proceed : World :=
  match world.phase with
  | .between =>
      match world.calls with
      | [] => world
      | call :: rest => { world with calls := rest }.call late call
  | .spawn queue => world.spawn queue late
  | .terminate pid => { world.update pid (Proc.terminate late) with phase := .wait pid }
  | .wait pid => world.wait late pid
  | .kill pid => { world.update pid (Proc.kill late) with phase := .between }

end World

/-- An operation is called once the last one has ended; a child may exit at any time. -/
inductive Label where
  | operate (operation : Operation)
  | exit (pid : Nat)
  | proceed (late : Bool)
deriving Repr

def World.step (world : World) : Label → World
  | .operate operation =>
      if world.Returned then
        { world with
          calls := world.script operation
          operation := some operation
          earlier := world.table.length
          raised := false }
      else world
  | .exit pid => world.update pid Proc.exit
  | .proceed late => world.proceed late

end WardenDemo.Supervision
