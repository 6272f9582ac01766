import WardenDemo.Batch.Workflow

/-!
# What a batch can do

`Takes` says once what the program points of `BatchAssignmentWorkflow` do.
-/

namespace WardenDemo.Batch

open Durable

/-- What each program point does, with what is known where it does it. -/
inductive Takes : Pc → BatchAssignmentWorkflow →
    Action BatchInput BatchAssignmentWorkflow Pc Command Result → Prop where
  | bloats {inp self} (bloat : inp.mode = "sequential_bloat") :
      Takes (.entry inp) self (.proceed (.iterate inp 0) self [])
  | fansOut {inp} {self : BatchAssignmentWorkflow} (fanout : inp.mode ≠ "sequential_bloat") :
      Takes (.entry inp) self
        (.proceed (.gather inp) { self with futures := (indices inp).map fun _ => .pending }
          ((indices inp).map fun index => .startChild (childStart inp index)))
  | evaluates {inp} {seq : Nat} {self} (more : (seq : Int) < inp.iterations) :
      Takes (.iterate inp seq) self (.proceed (.awaitEval inp seq) self [.tinyEval seq])
  | evaluating {inp seq self} : Takes (.awaitEval inp seq) self .suspend
  | iterated {inp} {seq : Nat} {self} (spent : ¬ (seq : Int) < inp.iterations) :
      Takes (.iterate inp seq) self (.complete (.bloat inp.iterations))
  | raised {inp} {self : BatchAssignmentWorkflow} (raised : .raised ∈ self.futures) :
      Takes (.gather inp) self .fail
  | gathering {inp} {self : BatchAssignmentWorkflow} (waiting : gathered self.futures = none) :
      Takes (.gather inp) self .suspend
  | gathered {inp scores} {self : BatchAssignmentWorkflow}
      (done : gathered self.futures = some scores) :
      Takes (.gather inp) self
        (.complete (.fanout inp.mode (effectiveFanout inp) (winners scores)))

theorem takes_step (history : Nat) (pc : Pc) (self : BatchAssignmentWorkflow) :
    Takes pc self (BatchAssignmentWorkflow.step history pc self) := by
  cases pc with
  | entry inp =>
      rw [BatchAssignmentWorkflow.step]
      split
      · exact .bloats (by assumption)
      · exact .fansOut (by assumption)
  | iterate inp seq =>
      rw [BatchAssignmentWorkflow.step]
      split
      · exact .evaluates (by assumption)
      · exact .iterated (by assumption)
  | awaitEval inp seq => exact .evaluating
  | gather inp =>
      rw [BatchAssignmentWorkflow.step]
      split
      · exact .raised (by assumption)
      · split
        · exact .gathered (by assumption)
        · exact .gathering (by assumption)

theorem takes_of_step {history : Nat} {pc : Pc} {self : BatchAssignmentWorkflow}
    {action : Action BatchInput BatchAssignmentWorkflow Pc Command Result}
    (stepped : batchWorkflow.step history pc self = action) : Takes pc self action := by
  rw [← stepped]
  exact takes_step history pc self

end WardenDemo.Batch
