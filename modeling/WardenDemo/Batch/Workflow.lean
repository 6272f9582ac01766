import WardenDemo.Common.Models
import WardenDemo.Common.Ranking
import WardenDemo.Durable.Workflow

/-!
# BatchAssignmentWorkflow and CandidateEvalWorkflow

The surge batch and its children. The activities run under the default retry
policy, which retries without limit, so they are only ever resolved as
completed. A child may fail to start, or be ended from outside; that fails the
batch.

A batch has no signals. What an activation brings it instead are the server's
reports on its children, any number of them and in any order; each settles the
future of one child, and the gather reads the futures when the coroutine
advances.
-/

namespace WardenDemo.Batch

open Durable

/-- Healthy fan-out is small and bounded regardless of the requested children. -/
def normalMaxChildren : Int := 8

/-- How many children a batch says it starts. -/
def effectiveFanout (inp : BatchInput) : Int :=
  if inp.mode = "sequential_bloat" then 0
  else if inp.mode = "fanout_storm" then inp.children
  else min inp.children normalMaxChildren

/-- `score_candidate`, in hundredths. -/
def scoreCandidate (candidateId : String) : Nat :=
  candidateId.toList.foldl (fun sum c => sum + c.toNat) 0 % 100

namespace Candidate

inductive Pc where
  | entry (inp : CandidateInput)
  | awaitScore (inp : CandidateInput)
  | scored (inp : CandidateInput)
deriving DecidableEq, Repr

inductive Command where
  | scoreCandidate (candidateId : String)
deriving DecidableEq, Repr

def step (_history : Nat) : Pc → Unit → Action CandidateInput Unit Pc Command Nat
  | .entry inp, self => .proceed (.awaitScore inp) self [.scoreCandidate inp.candidateId]
  | .awaitScore _, _ => .suspend
  | .scored inp, _ => .complete (scoreCandidate inp.candidateId)

def resume : Resolution → Pc → Unit → Option Pc
  | .activityCompleted, .awaitScore inp, _ => some (.scored inp)
  | _, _, _ => none

end Candidate

/-- `CandidateEvalWorkflow` as the server runs it; it returns a score. -/
def candidateWorkflow : Workflow CandidateInput Empty Unit Candidate.Pc Candidate.Command Nat where
  init := ()
  handle := nofun
  entry := .entry
  step := Candidate.step
  resume := Candidate.resume

/-- The search attributes a batch is started with, and starts its children with. -/
structure Attributes where
  batchMode : String
  fanoutSize : Int
deriving DecidableEq, Repr

/-- A call of `execute_child_workflow`. -/
structure ChildStart where
  input : CandidateInput
  id : String
  attributes : Attributes
deriving DecidableEq, Repr

/-- The future of one child. -/
inductive Future where
  | pending
  | scored (score : Nat)
  | raised
deriving DecidableEq, Repr

/-- The futures the gather waits for, one for each child. -/
structure BatchAssignmentWorkflow where
  futures : List Future := []
deriving DecidableEq, Repr

/-- The server's report on the child started at an index. -/
inductive Report where
  | returned (index : Nat) (score : Nat)
  | failed (index : Nat)
deriving DecidableEq, Repr

inductive Command where
  | tinyEval (seq : Nat)
  | startChild (child : ChildStart)
deriving DecidableEq, Repr

/-- The dict a batch returns. -/
inductive Result where
  | bloat (iterations : Int)
  | fanout (mode : String) (children : Int) (winners : List Nat)
deriving DecidableEq, Repr

inductive Pc where
  | entry (inp : BatchInput)
  | iterate (inp : BatchInput) (seq : Nat)
  | awaitEval (inp : BatchInput) (seq : Nat)
  | gather (inp : BatchInput)
deriving DecidableEq, Repr

/-- The input of the child at an index. -/
def candidateInput (inp : BatchInput) (index : Nat) : CandidateInput :=
  ⟨inp.batchId, s!"c{index}"⟩

def childStart (inp : BatchInput) (index : Nat) : ChildStart where
  input := candidateInput inp index
  id := candidateId inp.batchId index
  attributes := ⟨inp.mode, effectiveFanout inp⟩

/-- The indices of `range(n)`; of a negative number there are none. -/
def indices (inp : BatchInput) : List Nat := List.range (effectiveFanout inp).toNat

/-- What the gather returns once every future has a result. -/
def gathered : List Future → Option (List Nat)
  | [] => some []
  | .scored score :: rest => (gathered rest).map fun scores => score :: scores
  | .pending :: _ | .raised :: _ => none

/-- `sorted(range(len(scores)), key=lambda i: scores[i], reverse=True)[:3]`. -/
def winners (scores : List Nat) : List Nat :=
  (Ranking.sortedDescending (fun index => scores.getD index 0)
    (List.range scores.length)).take 3

namespace BatchAssignmentWorkflow

/-- Settle the future of a child, once. -/
def settle (index : Nat) (future : Future) (self : BatchAssignmentWorkflow) :
    BatchAssignmentWorkflow :=
  { self with futures :=
      if self.futures[index]? = some .pending then self.futures.set index future
      else self.futures }

def handle : Report → BatchAssignmentWorkflow → BatchAssignmentWorkflow
  | .returned index score, self => self.settle index (.scored score)
  | .failed index, self => self.settle index .raised

def step (_history : Nat) : Pc → BatchAssignmentWorkflow →
    Action BatchInput BatchAssignmentWorkflow Pc Command Result
  | .entry inp, self =>
      if inp.mode = "sequential_bloat" then .proceed (.iterate inp 0) self []
      else .proceed (.gather inp) { self with futures := (indices inp).map fun _ => .pending }
        ((indices inp).map fun index => .startChild (childStart inp index))
  | .iterate inp seq, self =>
      if (seq : Int) < inp.iterations then .proceed (.awaitEval inp seq) self [.tinyEval seq]
      else .complete (.bloat inp.iterations)
  | .awaitEval _ _, _ => .suspend
  | .gather inp, self =>
      -- The first exception leaves the gather, whatever is still pending.
      if .raised ∈ self.futures then .fail
      else match gathered self.futures with
        | some scores => .complete (.fanout inp.mode (effectiveFanout inp) (winners scores))
        | none => .suspend

def resume : Resolution → Pc → BatchAssignmentWorkflow → Option Pc
  | .activityCompleted, .awaitEval inp seq, _ => some (.iterate inp (seq + 1))
  | _, _, _ => none

end BatchAssignmentWorkflow

/-- `BatchAssignmentWorkflow` as the server runs it. -/
def batchWorkflow :
    Workflow BatchInput Report BatchAssignmentWorkflow Pc Command Result where
  init := {}
  handle := BatchAssignmentWorkflow.handle
  entry := .entry
  step := BatchAssignmentWorkflow.step
  resume := BatchAssignmentWorkflow.resume

abbrev Event := Durable.Event BatchInput Report BatchAssignmentWorkflow Pc Command Result
abbrev Config := Durable.Config BatchAssignmentWorkflow Pc Result

end WardenDemo.Batch
