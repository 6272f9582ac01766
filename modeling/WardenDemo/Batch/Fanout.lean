import WardenDemo.Batch.Transitions
import WardenDemo.Durable.Finishing
import WardenDemo.Durable.Schedule
import WardenDemo.Traffic.Parameters

/-!
# The stated fan-out

`effective_fanout` is computed once and relied on by the generator, the child
attributes, the ids, the loop and the result. It is the number of children that
are started unless it is negative: a range over a negative number is empty.
-/

namespace WardenDemo.Batch

open Durable

def childStarted : Event → Option ChildStart
  | .issued (.startChild child) => some child
  | _ => none

/-- The children a chain has started, in order. -/
def childrenStarted (trace : List Event) : List ChildStart := collect childStarted trace

def evaluated : Event → Option Nat
  | .issued (.tinyEval seq) => some seq
  | _ => none

/-- The `tiny_eval` calls of a chain. -/
def evaluations (trace : List Event) : List Nat := collect evaluated trace

def returnedScore : Event → Option (Nat × Nat)
  | .handled _ _ (.returned index score) => some (index, score)
  | _ => none

/-- The scores the server has reported, each with the index of its child. -/
def returnedScores (trace : List Event) : List (Nat × Nat) := collect returnedScore trace

/-- The children of a batch, as it is to start them. -/
def plan (inp : BatchInput) : List ChildStart := (indices inp).map (childStart inp)

/-- A future that has a score got it from a report on its child. -/
def Reported (trace : List Event) (futures : List Future) : Prop :=
  ∀ {index score}, futures[index]? = some (.scored score) →
    (index, score) ∈ returnedScores trace

/-- Where a batch is, and what it has started up to there. -/
def Stands (inp : BatchInput) (trace : List Event) (pc : Pc) (self : BatchAssignmentWorkflow) :
    Prop :=
  match pc with
  | .entry inp' => inp' = inp ∧ childrenStarted trace = [] ∧ evaluations trace = []
  | .iterate inp' seq =>
      inp' = inp ∧ inp.mode = "sequential_bloat" ∧ childrenStarted trace = [] ∧
        evaluations trace = List.range seq ∧ (seq = 0 ∨ (seq : Int) ≤ inp.iterations)
  | .awaitEval inp' seq =>
      inp' = inp ∧ inp.mode = "sequential_bloat" ∧ childrenStarted trace = [] ∧
        evaluations trace = List.range (seq + 1) ∧ (seq : Int) < inp.iterations
  | .gather inp' =>
      inp' = inp ∧ inp.mode ≠ "sequential_bloat" ∧ childrenStarted trace = plan inp ∧
        evaluations trace = [] ∧ self.futures.length = (indices inp).length ∧
        Reported trace self.futures

section Steps

variable {inp : BatchInput} {trace events : List Event} {pc next : Pc}
  {self self' : BatchAssignmentWorkflow} {commands : List Command} {history : Nat}

theorem childrenStarted_append (trace events : List Event) :
    childrenStarted (trace ++ events) = childrenStarted trace ++ childrenStarted events :=
  collect_append childStarted trace events

theorem evaluations_append (trace events : List Event) :
    evaluations (trace ++ events) = evaluations trace ++ evaluations events :=
  collect_append evaluated trace events

/-- What the coroutine issues before it gathers. -/
def starts (inp : BatchInput) : List Event :=
  ((indices inp).map fun index => .startChild (childStart inp index)).map .issued

theorem childrenStarted_starts (inp : BatchInput) : childrenStarted (starts inp) = plan inp := by
  rw [starts, childrenStarted, collect, List.filterMap_map, List.filterMap_map]
  exact congrFun (List.filterMap_eq_map (f := childStart inp)) _

theorem evaluations_starts (inp : BatchInput) : evaluations (starts inp) = [] := by
  rw [starts, evaluations, collect, List.filterMap_map, List.filterMap_map]
  exact List.filterMap_eq_nil_iff.mpr fun _ _ => rfl

theorem Reported.append {futures : List Future} (reported : Reported trace futures)
    (events : List Event) : Reported (trace ++ events) futures := by
  intro index score held
  rw [returnedScores, collect_append]
  exact List.mem_append_left _ (reported held)

/-- Settling a future leaves the others, and itself if it is settled. -/
theorem getElem?_settle {index other : Nat} {future held : Future}
    (here : (self.settle index future).futures[other]? = some held) :
    (other = index ∧ held = future) ∨ self.futures[other]? = some held := by
  unfold BatchAssignmentWorkflow.settle at here
  split at here
  · rename_i pending
    by_cases same : index = other
    · subst same
      have within := (List.getElem?_eq_some_iff.mp pending).1
      simp [within] at here
      exact Or.inl ⟨rfl, here.symm⟩
    · right
      simpa [List.getElem?_set_ne same] using here
  · exact Or.inr here

/-- The future of a child holds what was reported first. -/
theorem Reported.handled {report : Report} (reported : Reported trace self.futures) :
    Reported (trace ++ [.handled pc self report]) (self.handle report).futures := by
  intro index score held
  cases report with
  | returned other score' =>
      rcases getElem?_settle held with ⟨rfl, same⟩ | before
      · cases same
        simp [returnedScores, returnedScore]
      · exact reported.append _ before
  | failed other =>
      rcases getElem?_settle held with ⟨_, same⟩ | before
      · cases same
      · exact reported.append _ before

/-- Events which start nothing leave a batch where it stands. -/
theorem Stands.append (stands : Stands inp trace pc self)
    (unstarted : childrenStarted events = []) (unevaluated : evaluations events = []) :
    Stands inp (trace ++ events) pc self := by
  have startedSame : childrenStarted (trace ++ events) = childrenStarted trace :=
    collect_append_of_nil unstarted trace
  have evaluatedSame : evaluations (trace ++ events) = evaluations trace :=
    collect_append_of_nil unevaluated trace
  unfold Stands at stands ⊢
  rw [startedSame, evaluatedSame]
  cases pc with
  | entry _ | iterate _ _ | awaitEval _ _ => exact stands
  | gather _ =>
      obtain ⟨same, fanout, started, none, length, reported⟩ := stands
      exact ⟨same, fanout, started, none, length, reported.append events⟩

theorem Stands.handled (stands : Stands inp trace pc self) (report : Report) :
    Stands inp (trace ++ [.handled pc self report]) pc (self.handle report) := by
  have there : Stands inp (trace ++ [.handled pc self report]) pc self := stands.append rfl rfl
  cases pc with
  | entry _ | iterate _ _ | awaitEval _ _ => exact there
  | gather _ =>
      obtain ⟨same, fanout, started, none, length, _⟩ := there
      obtain ⟨_, _, _, _, _, reported⟩ := stands
      refine ⟨same, fanout, started, none, ?_, reported.handled⟩
      rw [← length]
      cases report <;>
        (simp only [BatchAssignmentWorkflow.handle, BatchAssignmentWorkflow.settle]; split <;> simp)

/-- A completed evaluation goes on with the next one. -/
theorem Stands.resumed (stands : Stands inp trace pc self) {resolution : Resolution}
    (resumed : BatchAssignmentWorkflow.resume resolution pc self = some next) :
    Stands inp (trace ++ [.resolved pc resolution]) next self := by
  have there : Stands inp (trace ++ [.resolved pc resolution]) pc self := stands.append rfl rfl
  unfold BatchAssignmentWorkflow.resume at resumed
  split at resumed <;> cases resumed
  obtain ⟨same, bloat, none, evaluated, more⟩ := there
  exact ⟨same, bloat, none, evaluated, Or.inr more⟩

theorem Stands.proceeds (stands : Stands inp trace pc self)
    (stepped : batchWorkflow.step history pc self = .proceed next self' commands) :
    Stands inp (trace ++ commands.map .issued) next self' := by
  cases takes_of_step stepped with
  | bloats bloat =>
      obtain ⟨rfl, started, evaluated⟩ := stands
      refine ⟨rfl, bloat, ?_, ?_, Or.inl rfl⟩
      · rw [childrenStarted_append, started]
        rfl
      · rw [evaluations_append, evaluated]
        rfl
  | @fansOut inp' _ fanout =>
      obtain ⟨rfl, started, evaluated⟩ := stands
      refine ⟨rfl, fanout, ?_, ?_, ?_, ?_⟩
      · rw [childrenStarted_append, started]
        exact childrenStarted_starts inp'
      · rw [evaluations_append, evaluated]
        exact evaluations_starts inp'
      · exact List.length_map _
      · intro index score held
        rw [List.getElem?_map, Option.map_eq_some_iff] at held
        obtain ⟨_, _, pending⟩ := held
        cases pending
  | evaluates more =>
      obtain ⟨rfl, bloat, started, evaluated, _⟩ := stands
      refine ⟨rfl, bloat, ?_, ?_, more⟩
      · rw [childrenStarted_append, started]
        rfl
      · rw [evaluations_append, evaluated, List.range_succ]
        rfl

theorem not_continues {input : BatchInput} :
    batchWorkflow.step history pc self ≠ .continueAsNew input commands := by
  intro stepped
  cases takes_of_step stepped

/-- Where a batch stands, along every chain. -/
def standing (inp : BatchInput) : batchWorkflow.Invariant inp where
  Idle trace pc self _ := Stands inp trace pc self
  Busy trace pc self _ := Stands inp trace pc self
  initial := ⟨rfl, rfl, rfl⟩
  handled report stands := stands.handled report
  advanced stands _ := stands.append rfl rfl
  resolved stands _ resumed := (stands.resumed resumed).append rfl rfl
  proceeds stands stepped := stands.proceeds stepped
  suspends stands _ := stands
  continues _ stepped := absurd stepped not_continues

end Steps

/-- A gather is done with the results of all the futures. -/
theorem eq_map_of_gathered {futures : List Future} {scores : List Nat}
    (done : gathered futures = some scores) : futures = scores.map .scored := by
  induction futures generalizing scores with
  | nil =>
      cases done
      rfl
  | cons future rest ih =>
      cases future with
      | pending | raised => cases done
      | scored score =>
          obtain ⟨later, rests, rfl⟩ := Option.map_eq_some_iff.mp done
          rw [ih rests, List.map_cons]

/-- Where a batch which has begun is between two activations, or how it ended. -/
inductive Began (inp : BatchInput) (trace : List Event) : Config → Prop where
  | iterating {seq : Nat} {self history} (bloat : inp.mode = "sequential_bloat")
      (none : childrenStarted trace = []) (more : (seq : Int) < inp.iterations) :
      Began inp trace (.running (.awaitEval inp seq) self history)
  | iterated (bloat : inp.mode = "sequential_bloat") (none : childrenStarted trace = [])
      (evaluated : evaluations trace = List.range inp.iterations.toNat) :
      Began inp trace (.completed (.bloat inp.iterations))
  | gathering {self history} (fanout : inp.mode ≠ "sequential_bloat")
      (started : childrenStarted trace = plan inp) :
      Began inp trace (.running (.gather inp) self history)
  | raised (fanout : inp.mode ≠ "sequential_bloat")
      (started : childrenStarted trace = plan inp) : Began inp trace .failed
  | gathered {scores : List Nat} (fanout : inp.mode ≠ "sequential_bloat")
      (started : childrenStarted trace = plan inp) (all : scores.length = (indices inp).length)
      (reported : Reported trace (scores.map .scored)) :
      Began inp trace (.completed (.fanout inp.mode (effectiveFanout inp) (winners scores)))

section Ends

variable {inp : BatchInput} {trace : List Event} {pc : Pc} {self : BatchAssignmentWorkflow}
  {history : Nat}

/-- Only an evaluation and the gather suspend a batch. -/
theorem Stands.suspends (stands : Stands inp trace pc self)
    (suspended : batchWorkflow.step history pc self = .suspend) :
    Began inp trace (.running pc self history) := by
  cases takes_of_step suspended with
  | evaluating =>
      obtain ⟨rfl, bloat, none, _, more⟩ := stands
      exact .iterating bloat none more
  | gathering =>
      obtain ⟨rfl, fanout, started, _⟩ := stands
      exact .gathering fanout started

theorem Stands.completes (stands : Stands inp trace pc self) {result : Result}
    (completed : batchWorkflow.step history pc self = .complete result) :
    Began inp (trace ++ [.completed result]) (.completed result) := by
  have there : Stands inp (trace ++ [.completed result]) pc self := stands.append rfl rfl
  cases takes_of_step completed with
  | @iterated inp' seq _ spent =>
      obtain ⟨rfl, bloat, none, evaluated, reached⟩ := there
      refine .iterated bloat none ?_
      have all : seq = inp'.iterations.toNat := by omega
      rw [evaluated, all]
  | gathered done =>
      obtain ⟨rfl, fanout, started, _, length, reported⟩ := there
      rw [eq_map_of_gathered done] at length reported
      exact .gathered fanout started (by simpa using length) reported

theorem Stands.fails (stands : Stands inp trace pc self)
    (failed : batchWorkflow.step history pc self = .fail) :
    Began inp (trace ++ [.failed]) .failed := by
  have there : Stands inp (trace ++ [.failed]) pc self := stands.append rfl rfl
  cases takes_of_step failed with
  | raised =>
      obtain ⟨rfl, fanout, started, _⟩ := there
      exact .raised fanout started

/-- A chain whose run has begun is at an await, or over. -/
theorem began {config : Config} (chain : batchWorkflow.Chain inp trace config)
    (begun : config ≠ batchWorkflow.fresh inp) : Began inp trace config := by
  cases config with
  | running pc self history =>
      have stands := (standing inp).of_running chain
      rcases chain.parked with ⟨input, rfl, rfl, rfl⟩ | suspended
      · obtain ⟨rfl, _⟩ := stands
        exact absurd rfl begun
      · exact stands.suspends suspended
  | completed result =>
      obtain ⟨before, pc, self, history, rfl, stands, completed⟩ :=
        (standing inp).of_completed chain
      exact stands.completes completed
  | failed =>
      obtain ⟨before, pc, self, history, rfl, stands, failed⟩ := (standing inp).of_chain chain
      exact stands.fails failed

end Ends

/-- The `start_workflow` call `batch_loop` makes for an input. -/
structure BatchStart where
  input : BatchInput
  id : String
  attributes : Attributes
deriving DecidableEq, Repr

def batchStart (inp : BatchInput) : BatchStart where
  input := inp
  id := s!"batch-{inp.batchId}"
  attributes := ⟨inp.mode, effectiveFanout inp⟩

/-- The one number is the number of children started, stamped by the generator,
stamped on each child, and returned; the children have ids of their own; and a
batch which bloats returns the number of its evaluations. -/
structure FanoutIsReal (inp : BatchInput) (trace : List Event) (config : Config) : Prop where
  started : ((childrenStarted trace).length : Int) = effectiveFanout inp
  generator : (batchStart inp).attributes.fanoutSize = effectiveFanout inp
  children : ∀ child ∈ childrenStarted trace, child.attributes.fanoutSize = effectiveFanout inp
  distinct : ((childrenStarted trace).map ChildStart.id).Nodup
  returned : ∀ {mode children winners}, config = .completed (.fanout mode children winners) →
    children = effectiveFanout inp
  iterated : ∀ {iterations}, config = .completed (.bloat iterations) →
    ((evaluations trace).length : Int) = iterations

/-- The number a batch is asked for is not negative. -/
def Countable (inp : BatchInput) : Prop :=
  if inp.mode = "sequential_bloat" then 0 ≤ inp.iterations else 0 ≤ inp.children

instance (inp : BatchInput) : Decidable (Countable inp) :=
  inferInstanceAs (Decidable (if inp.mode = "sequential_bloat" then _ else _))

section Fanout

variable {inp : BatchInput}

theorem effectiveFanout_of_bloat (bloat : inp.mode = "sequential_bloat") :
    effectiveFanout inp = 0 :=
  if_pos bloat

/-- The fan-out is bounded from above only. -/
theorem effectiveFanout_nonneg_iff (fanout : inp.mode ≠ "sequential_bloat") :
    0 ≤ effectiveFanout inp ↔ 0 ≤ inp.children := by
  rw [effectiveFanout, if_neg fanout]
  split
  · exact Iff.rfl
  · simp only [normalMaxChildren]
    omega

theorem nodup_plan (inp : BatchInput) : ((plan inp).map ChildStart.id).Nodup := by
  rw [plan, List.map_map]
  exact (List.nodup_range).map (candidateId_injective inp.batchId)

theorem stamped_plan {child : ChildStart} (mem : child ∈ plan inp) :
    child.attributes.fanoutSize = effectiveFanout inp := by
  obtain ⟨index, _, rfl⟩ := List.mem_map.mp mem
  rfl

theorem length_plan : (plan inp).length = (effectiveFanout inp).toNat := by
  rw [plan, List.length_map, indices, List.length_range]

/-- A batch that fans out starts as many children as it says unless the number is
negative. -/
theorem fanoutIsReal_iff_of_fanout {trace : List Event} {config : Config}
    (fanout : inp.mode ≠ "sequential_bloat") (started : childrenStarted trace = plan inp)
    (returned : ∀ {mode children winners}, config = .completed (.fanout mode children winners) →
      children = effectiveFanout inp)
    (iterated : ∀ iterations, config ≠ .completed (.bloat iterations)) :
    FanoutIsReal inp trace config ↔ Countable inp := by
  rw [Countable, if_neg fanout, ← effectiveFanout_nonneg_iff fanout]
  constructor
  · rintro ⟨count, _⟩
    omega
  · intro nonneg
    refine ⟨?_, rfl, ?_, ?_, returned, fun ends => absurd ends (iterated _)⟩
    · rw [started, length_plan]
      omega
    · intro child mem
      rw [started] at mem
      exact stamped_plan mem
    · rw [started]
      exact nodup_plan inp

/-- A batch that does not fan out starts no children, as it says. -/
theorem fanoutIsReal_iff_of_bloat {trace : List Event} {config : Config}
    (bloat : inp.mode = "sequential_bloat") (none : childrenStarted trace = [])
    (returned : ∀ mode children winners, config ≠ .completed (.fanout mode children winners))
    (iterated : (∀ {iterations}, config = .completed (.bloat iterations) →
      ((evaluations trace).length : Int) = iterations) ↔ 0 ≤ inp.iterations) :
    FanoutIsReal inp trace config ↔ Countable inp := by
  rw [Countable, if_pos bloat, ← iterated]
  constructor
  · intro real
    exact real.iterated
  · intro same
    have zero := effectiveFanout_of_bloat bloat
    refine ⟨?_, rfl, ?_, ?_, fun ends => absurd ends (returned _ _ _), same⟩
    · rw [none, zero]
      rfl
    · rw [none]
      nofun
    · rw [none]
      exact List.nodup_nil

end Fanout

/-- For every batch input and every chain of it which has begun, the stated fan-out
is the real one if and only if the number asked for is not negative. -/
theorem fanout_real_iff {inp : BatchInput} {trace : List Event} {config : Config}
    (chain : batchWorkflow.Chain inp trace config) (begun : config ≠ batchWorkflow.fresh inp) :
    FanoutIsReal inp trace config ↔ Countable inp := by
  cases began chain begun with
  | iterating bloat none more =>
      refine fanoutIsReal_iff_of_bloat bloat none nofun (iff_of_true nofun ?_)
      omega
  | iterated bloat none evaluated =>
      refine fanoutIsReal_iff_of_bloat bloat none nofun ?_
      rw [evaluated, List.length_range]
      constructor
      · intro same
        have count := same rfl
        omega
      · rintro nonneg _ ⟨rfl⟩
        omega
  | gathering fanout started => exact fanoutIsReal_iff_of_fanout fanout started nofun nofun
  | raised fanout started => exact fanoutIsReal_iff_of_fanout fanout started nofun nofun
  | gathered fanout started _ _ =>
      refine fanoutIsReal_iff_of_fanout fanout started ?_ nofun
      rintro _ _ _ ⟨rfl⟩
      rfl

/-- A normal batch of three, one child of which has returned. -/
theorem fanout_real_of_three :
    ∃ trace config, batchWorkflow.Chain { batchId := "b7", children := 3 } trace config ∧
      FanoutIsReal { batchId := "b7", children := 3 } trace config := by
  have chain := Workflow.Chain.of_replay batchWorkflow 10 { batchId := "b7", children := 3 }
    [⟨[], none, 3⟩, ⟨[.returned 1 48], none, 20⟩] rfl
  exact ⟨_, _, chain, (fanout_real_iff chain nofun).mpr (by decide)⟩

/-- What is posted for a storm of minus five children. -/
def negativeChildren : List (String × Bool × Option (Dict Json)) :=
  [(Control.fanoutStorm, true, some (.literal [("children", .int (-5))]))]

/-- A storm of minus five children starts none, and says it started minus five. -/
theorem fanout_of_negative_children :
    ∃ inp trace config,
      Traffic.Process.batchInput Traffic.wordNumerals "b7" 6
        { scenarios := Traffic.scenariosAfter negativeChildren } = .ok inp ∧
      batchWorkflow.Chain inp trace config ∧ config ≠ batchWorkflow.fresh inp ∧
      ¬ FanoutIsReal inp trace config := by
  have chain := Workflow.Chain.of_replay batchWorkflow 10
    { batchId := "b7", mode := "fanout_storm", children := -5 } [⟨[], none, 3⟩] rfl
  refine ⟨_, _, _, rfl, chain, nofun, ?_⟩
  intro real
  exact absurd real.started (by decide)

end WardenDemo.Batch
