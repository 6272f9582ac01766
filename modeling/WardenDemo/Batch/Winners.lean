import WardenDemo.Batch.Fanout

/-!
# The winners of a batch

The gather keeps the scores by the order the children were started in, so the
order they return in does not show, and goes on waiting only for children that have
not been reported on. The winners are the podium of the children ranked by score,
where the lower index goes first in a tie.
-/

namespace WardenDemo.Batch

open Durable Ranking

/-- The score of the child started at an index, in hundredths. -/
def indexScore (index : Nat) : Nat := scoreCandidate s!"c{index}"

/-- Higher scores first, and the lower index first among equal ones. -/
abbrev Leads : Nat → Nat → Prop := Ahead indexScore (· < ·)

theorem Leads.asymm (first second : Nat) (leads : Leads first second) : ¬ Leads second first :=
  Ahead.asymm (fun _ _ => Nat.lt_asymm) first second leads

namespace Candidate

def Pc.input : Pc → CandidateInput
  | .entry inp | .awaitScore inp | .scored inp => inp

/-- A candidate whose activity is answered returns. -/
theorem returns (inp : CandidateInput) :
    ∃ trace, candidateWorkflow.Chain inp trace (.completed (scoreCandidate inp.candidateId)) :=
  ⟨_, Workflow.Chain.of_replay candidateWorkflow 3 inp
    [⟨[], none, 3⟩, ⟨[], some .activityCompleted, 9⟩] rfl⟩

end Candidate

section Gathered

variable {inp : BatchInput} {trace : List Event} {scores : List Nat}

end Gathered

section Settled

/-- The child a gathering batch is told to have returned or failed. -/
def settledChild : Event → Option Nat
  | .handled (.gather _) _ (.returned index _) => some index
  | .handled (.gather _) _ (.failed index) => some index
  | _ => none

def settledChildren (trace : List Event) : List Nat := collect settledChild trace

/-- A gather has a result of each child that was reported on. -/
def Settles (trace : List Event) : Pc → BatchAssignmentWorkflow → Prop
  | .gather _, self => ∀ index ∈ settledChildren trace, self.futures[index]? ≠ some .pending
  | _, _ => settledChildren trace = []

variable {inp : BatchInput} {trace events : List Event} {pc next : Pc}
  {self self' : BatchAssignmentWorkflow} {commands : List Command} {history : Nat}

theorem Settles.append (settles : Settles trace pc self) (unread : settledChildren events = []) :
    Settles (trace ++ events) pc self := by
  have same : settledChildren (trace ++ events) = settledChildren trace :=
    collect_append_of_nil unread trace
  cases pc <;> (dsimp only [Settles] at settles ⊢; rwa [same])

/-- A future which is settled is not pending. -/
theorem not_pending_settle {index : Nat} {future : Future} (result : future ≠ .pending) :
    (self.settle index future).futures[index]? ≠ some .pending := by
  intro pending
  unfold BatchAssignmentWorkflow.settle at pending
  split at pending
  · next before =>
      have within := (List.getElem?_eq_some_iff.mp before).1
      simp [within, result] at pending
  · exact absurd pending (by assumption)

/-- A report settles the future of its child, and leaves those which are settled. -/
theorem settles_settle (self : BatchAssignmentWorkflow) (index : Nat) {future : Future}
    (result : future ≠ .pending)
    (settles : ∀ other ∈ settledChildren trace, self.futures[other]? ≠ some .pending) :
    ∀ other ∈ settledChildren trace ++ [index],
      (self.settle index future).futures[other]? ≠ some .pending := by
  intro other mem pending
  rcases getElem?_settle pending with ⟨_, same⟩ | before
  · exact result same.symm
  · rcases List.mem_append.mp mem with old | new
    · exact settles other old before
    · rw [List.mem_singleton.mp new] at pending
      exact not_pending_settle result pending

theorem Settles.handled (settles : Settles trace pc self) (report : Report) :
    Settles (trace ++ [.handled pc self report]) pc (self.handle report) := by
  cases pc with
  | entry _ | iterate _ _ | awaitEval _ _ =>
      exact (collect_append_of_nil rfl trace).trans settles
  | gather _ =>
      dsimp only [Settles] at settles ⊢
      rw [settledChildren, collect_append]
      cases report with
      | returned index score => exact settles_settle self index nofun settles
      | failed index => exact settles_settle self index nofun settles

theorem Settles.proceeds (settles : Settles trace pc self)
    (stepped : batchWorkflow.step history pc self = .proceed next self' commands) :
    Settles (trace ++ commands.map .issued) next self' := by
  have unread : settledChildren (commands.map .issued) = [] :=
    collect_issued (fun _ => rfl) commands
  apply Settles.append _ unread
  cases takes_of_step stepped with
  | bloats | evaluates => exact settles
  | fansOut =>
      intro index mem
      have none : settledChildren trace = [] := settles
      rw [none] at mem
      cases mem

theorem Settles.resumed (settles : Settles trace pc self) {resolution : Resolution}
    (resumed : BatchAssignmentWorkflow.resume resolution pc self = some next) :
    Settles trace next self := by
  unfold BatchAssignmentWorkflow.resume at resumed
  split at resumed <;> cases resumed
  exact settles

/-- The futures of a gather go by the reports on its children, along every chain. -/
def settling (inp : BatchInput) : batchWorkflow.Invariant inp where
  Idle trace pc self _ := Settles trace pc self
  Busy trace pc self _ := Settles trace pc self
  initial := rfl
  handled report settles := settles.handled report
  advanced settles _ := settles.append rfl
  resolved settles _ resumed := by
    rw [List.append_assoc]
    exact (settles.resumed resumed).append rfl
  proceeds settles stepped := settles.proceeds stepped
  suspends settles _ := settles
  continues _ stepped := absurd stepped not_continues

/-- A gather which goes on waiting, though no child has failed, waits for a child. -/
theorem pending_of_gathered {futures : List Future} (waiting : gathered futures = none)
    (unraised : .raised ∉ futures) : .pending ∈ futures := by
  induction futures with
  | nil => cases waiting
  | cons future rest ih =>
      cases future with
      | pending => exact List.mem_cons_self
      | raised => exact absurd List.mem_cons_self unraised
      | scored score =>
          have later : gathered rest = none := Option.map_eq_none_iff.mp waiting
          have fine : .raised ∉ rest := fun mem => unraised (List.mem_cons_of_mem _ mem)
          exact List.mem_cons_of_mem _ (ih later fine)

theorem pending_of_suspend (suspended : batchWorkflow.step history (.gather inp) self = .suspend) :
    .pending ∈ self.futures := by
  change BatchAssignmentWorkflow.step history (.gather inp) self = .suspend at suspended
  rw [BatchAssignmentWorkflow.step] at suspended
  split at suspended
  · cases suspended
  · next unraised =>
      split at suspended
      · cases suspended
      · next waiting => exact pending_of_gathered waiting unraised

/-- A batch which fans out is over once each of its children has returned or failed. -/
theorem closed_of_all_settled {config : Config} (chain : batchWorkflow.Chain inp trace config)
    (begun : config ≠ batchWorkflow.fresh inp) (fanout : inp.mode ≠ "sequential_bloat")
    (all : ∀ index ∈ indices inp, index ∈ settledChildren trace) : config.Closed := by
  cases config with
  | completed _ | failed => trivial
  | running pc self history =>
      have stands := (standing inp).of_running chain
      have settles := (settling inp).of_running chain
      rcases chain.parked with ⟨input, rfl, rfl, rfl⟩ | suspended
      · obtain ⟨rfl, _⟩ := stands
        exact absurd rfl begun
      · cases began chain begun with
        | iterating bloat => exact absurd bloat fanout
        | gathering =>
            obtain ⟨_, _, _, _, length, _⟩ := stands
            obtain ⟨index, found⟩ := List.mem_iff_getElem?.mp (pending_of_suspend suspended)
            have within : index < (indices inp).length :=
              length ▸ (List.getElem?_eq_some_iff.mp found).1
            have child : index ∈ indices inp := by simpa [indices] using within
            exact absurd found (settles index (all index child))

end Settled

end WardenDemo.Batch
