import WardenDemo.Common.Results
import WardenDemo.Fold.Runs
import WardenDemo.Traffic.Loops

/-!
# Entities started anew

The generator keeps the regions and the menu syncs running: every so often it starts each
of them under its own id, and lets the server refuse those which run. The dashboard
terminates regions, which it comes by in a listing that lags behind, and any entity may
fail. The calls of both, and what happens to the entities meanwhile, come in any order.
-/

namespace WardenDemo.Traffic

/-- What the server keeps of a workflow id: how many executions were started under it, and
whether the latest is running. -/
structure Executions where
  started : Nat := 0
  running : Bool := false
deriving DecidableEq, Repr

namespace Executions

/-- The server refuses to start a second execution while one is running. -/
def start (self : Executions) : Executions :=
  if self.running then self else { started := self.started + 1, running := true }

def close (self : Executions) : Executions := { self with running := false }

theorem start_start (self : Executions) : self.start.start = self.start := by
  unfold start
  split <;> simp [*]

end Executions

/-- How a call of `start_workflow` goes: it is answered, or it raises, and may have come to
the server nevertheless. -/
inductive Call where
  | answered
  | lost
  | unsent
deriving DecidableEq, Repr

def Call.reply (executions : Executions) : Call → Reply
  | .answered => if executions.running then .error .workflowAlreadyStarted else .ok ()
  | .lost | .unsent => .error .other

/-- The server, once the call has or has not come to it. -/
def Call.serve (executions : Executions) : Call → Executions
  | .answered | .lost => executions.start
  | .unsent => executions

/-- How far `ensure_entities` has come, which `entity_keepalive_loop` calls again after each
sleep; an exception ends the loop, and the generator. -/
inductive Keepalive where
  | ensuring (wfIds : List String)
  | sleeping
  | ended
deriving DecidableEq, Repr

/-- A request to `terminate_dispatch`: how many it asks for, and the list it answers with. -/
structure Termination where
  count : Int
  terminated : List String := []
  returned : Bool := false
deriving Repr

/-- The loop is left once this many were terminated. -/
def Termination.limit (self : Termination) : Int := max 1 self.count

def Termination.append (wfId : String) (self : Termination) : Termination :=
  let terminated := self.terminated ++ [wfId]
  { self with terminated := terminated, returned := self.limit ≤ terminated.length }

namespace Termination

variable {termination : Termination}

/-- A request has terminated regions, and no more than it may. -/
structure Within (termination : Termination) : Prop where
  within : (termination.terminated.length : Int) ≤ termination.limit
  goesOn : termination.returned = false →
    (termination.terminated.length : Int) < termination.limit
  regions : ∀ wfId ∈ termination.terminated, ∃ region, wfId = dispatchId region

theorem within_of_fresh (count : Int) : Within { count } := by
  have positive : 0 < max 1 count := lt_of_lt_of_le one_pos (le_max_left 1 count)
  exact ⟨Int.le_of_lt positive, fun _ => positive, nofun⟩

theorem Within.append (within : termination.Within) (goesOn : termination.returned = false)
    (region : String) : (termination.append (dispatchId region)).Within := by
  have fewer := within.goesOn goesOn
  refine ⟨?_, fun more => ?_, fun wfId mem => ?_⟩
  · simp only [Termination.append, List.length_append, List.length_singleton, limit] at fewer ⊢
    omega
  · exact Int.not_le.mp (of_decide_eq_false more)
  · rcases List.mem_append.mp mem with old | new
    · exact within.regions wfId old
    · exact ⟨region, List.mem_singleton.mp new⟩

theorem Within.returns (within : termination.Within) :
    Within { termination with returned := true } :=
  ⟨within.within, nofun, within.regions⟩

end Termination

structure Entities where
  server : String → Executions := fun _ => {}
  keepalive : Keepalive := .ensuring entityIds
  requests : List Termination := []

namespace Entities

/-- The next call of the generator, the next entry of a listing or its end, and what else
becomes of the entities. -/
inductive Label where
  | start (call : Call)
  | wake
  | request (count : Int)
  | list (request : Nat) (region : String)
  | listed (request : Nat)
  | close (wfId : String)

variable (entities : Entities)

/-- The server, once an id has been dealt with. -/
def serve (wfId : String) (change : Executions → Executions) : String → Executions :=
  Function.update entities.server wfId (change (entities.server wfId))

def start (call : Call) : Entities :=
  match entities.keepalive with
  | .ensuring [] => { entities with keepalive := .sleeping }
  | .ensuring (wfId :: rest) =>
      { entities with
        server := entities.serve wfId call.serve
        keepalive :=
          match tolerate (call.reply (entities.server wfId)) with
          | .ok _ => .ensuring rest
          | .error _ => .ended }
  | .sleeping | .ended => entities

/-- A listed workflow is terminated; one that no longer runs cannot be, and the request fails. -/
def terminate (request : Nat) (wfId : String) (termination : Termination) : Entities :=
  if (entities.server wfId).running then
    { entities with
      server := entities.serve wfId Executions.close
      requests := entities.requests.set request (termination.append wfId) }
  else
    { entities with
      requests := entities.requests.set request { termination with returned := true } }

def step (entities : Entities) : Label → Entities
  | .start call => entities.start call
  | .wake =>
      if entities.keepalive = .sleeping then { entities with keepalive := .ensuring entityIds }
      else entities
  | .request count => { entities with requests := entities.requests ++ [{ count }] }
  | .list request region =>
      match entities.requests[request]? with
      | none => entities
      | some termination =>
          if termination.returned then entities
          else entities.terminate request (dispatchId region) termination
  | .listed request =>
      { entities with
        requests := entities.requests.modify request fun termination =>
          { termination with returned := true } }
  | .close wfId => { entities with server := entities.serve wfId Executions.close }

/-- The entities after a run from the start of the generator. -/
def run (labels : List Label) : Entities := labels.foldl step {}

/-- A step which ends the execution that runs under an id. -/
def Closes (wfId : String) (entities : Entities) (label : Label) : Prop :=
  (entities.server wfId).running = true ∧ ((entities.step label).server wfId).running = false

instance (wfId : String) (entities : Entities) (label : Label) :
    Decidable (Closes wfId entities label) :=
  inferInstanceAs (Decidable (_ ∧ _))

/-- An id that is still to be dealt with is as it was, and one that was dealt with is running. -/
inductive Ensured (wfId : String) (before : Executions) (entities : Entities) : Prop where
  | ahead {left : List String} (ensuring : entities.keepalive = .ensuring left)
      (mem : wfId ∈ left) (still : entities.server wfId = before)
  | ensured (runs : entities.server wfId = before.start)
  | ended (ended : entities.keepalive = .ended)

section Steps

variable {entities : Entities} {wfId other : String} {before : Executions}
  {change : Executions → Executions}

theorem serve_of_ne (differs : other ≠ wfId) :
    entities.serve wfId change other = entities.server other :=
  Function.update_of_ne differs _ _

theorem serve_self : entities.serve wfId change wfId = change (entities.server wfId) :=
  Function.update_self _ _ _

/-- Closing an id leaves it as it is, unless that ends an execution under it. -/
theorem serve_of_close
    (spared : ¬ ((entities.server wfId).running = true ∧
      (entities.serve other Executions.close wfId).running = false)) :
    entities.serve other Executions.close wfId = entities.server wfId := by
  by_cases same : wfId = other
  · subst same
    rw [serve_self] at spared ⊢
    have idle : (entities.server wfId).running = false :=
      Bool.eq_false_of_not_eq_true fun running => spared ⟨running, rfl⟩
    rw [Executions.close, ← idle]
  · exact serve_of_ne same

/-- What is dealt with again stays as it is. -/
theorem serve_of_start (call : Call) (runs : entities.server wfId = before.start) :
    entities.serve other call.serve wfId = before.start := by
  by_cases same : wfId = other
  · subst same
    rw [serve_self, runs]
    cases call with
    | answered | lost => exact before.start_start
    | unsent => rfl
  · rw [serve_of_ne same, runs]

/-- A call that raises ends the loop, and one that is answered has come to the server. -/
theorem Ensured.start (ensured : Ensured wfId before entities) (call : Call) :
    Ensured wfId before (entities.start call) := by
  unfold Entities.start
  split
  · next here =>
      rcases ensured with ⟨ensuring, mem, _⟩ | runs | ended
      · cases here.symm.trans ensuring
        cases mem
      · exact .ensured runs
      · cases here.symm.trans ended
  · next first rest here =>
      rcases ensured with ⟨ensuring, mem, still⟩ | runs | ended
      · cases here.symm.trans ensuring
        by_cases same : wfId = first
        · subst same
          cases call with
          | unsent => exact .ended rfl
          | answered | lost =>
              apply Ensured.ensured
              dsimp only
              rw [serve_self, still]
              rfl
        · have later : wfId ∈ rest := List.mem_of_ne_of_mem same mem
          cases tolerated : tolerate (call.reply (entities.server first)) with
          | ok =>
              have untouched : entities.serve first call.serve wfId = before := by
                rw [serve_of_ne same, still]
              exact .ahead rfl later untouched
          | error => exact .ended rfl
      · exact .ensured (serve_of_start call runs)
      · cases here.symm.trans ended
  all_goals exact ensured

/-- A listing leaves the generator where it is, and closes a region or nothing. -/
theorem step_list (entities : Entities) (request : Nat) (region : String) :
    (entities.step (.list request region)).keepalive = entities.keepalive ∧
      ((entities.step (.list request region)).server = entities.server ∨
        (entities.step (.list request region)).server =
          entities.serve (dispatchId region) Executions.close) := by
  dsimp only [Entities.step, terminate]
  split
  · exact ⟨rfl, Or.inl rfl⟩
  · split
    · exact ⟨rfl, Or.inl rfl⟩
    · split
      · exact ⟨rfl, Or.inr rfl⟩
      · exact ⟨rfl, Or.inl rfl⟩

/-- What happens to other ids leaves an id as it is. -/
theorem Ensured.of_same {later : Entities} (ensured : Ensured wfId before entities)
    (keepalive : later.keepalive = entities.keepalive)
    (server : later.server wfId = entities.server wfId) : Ensured wfId before later := by
  rcases ensured with ⟨ensuring, mem, still⟩ | runs | ended
  · exact .ahead (keepalive.trans ensuring) mem (server.trans still)
  · exact .ensured (server.trans runs)
  · exact .ended (keepalive.trans ended)

theorem Ensured.step (ensured : Ensured wfId before entities) {label : Label}
    (spared : ¬ Closes wfId entities label) : Ensured wfId before (entities.step label) := by
  cases label with
  | start call => exact ensured.start call
  | wake =>
      dsimp only [Entities.step]
      split
      · next asleep =>
          rcases ensured with ⟨ensuring, _, _⟩ | runs | ended
          · cases asleep.symm.trans ensuring
          · exact .ensured runs
          · cases asleep.symm.trans ended
      · exact ensured
  | request count => exact ensured.of_same rfl rfl
  | listed request => exact ensured.of_same rfl rfl
  | close other => exact ensured.of_same rfl (serve_of_close spared)
  | list request region =>
      obtain ⟨keepalive, same | closed⟩ := entities.step_list request region
      · exact ensured.of_same keepalive (congrFun same wfId)
      · rw [Closes, closed] at spared
        exact ensured.of_same keepalive ((congrFun closed wfId).trans (serve_of_close spared))

theorem Ensured.run (ensured : Ensured wfId before entities) {labels : List Label}
    (spared : Fold.Along Entities.step (fun entities label => ¬ Closes wfId entities label)
      entities labels) :
    Ensured wfId before (labels.foldl Entities.step entities) := by
  induction labels generalizing entities with
  | nil => exact ensured
  | cons label rest ih =>
      obtain ⟨here, later⟩ := spared
      exact ih (ensured.step here) later

theorem start_ended (ended : entities.keepalive = .ended) (calls : List Call) :
    (calls.foldl Entities.start entities).keepalive = .ended := by
  have kept (entities : Entities) (call : Call) (ended : entities.keepalive = .ended) :
      (entities.start call).keepalive = .ended := by
    simp [Entities.start, ended]
  exact Fold.foldl_of_invariant kept ended calls

/-- A pass which nothing comes between ends the generator where `ensure_entities` raises,
given what the server replied to its calls. -/
theorem keepalive_of_pass {left : List String} (distinct : left.Nodup)
    (ensuring : entities.keepalive = .ensuring left) (calls : String → Call) :
    ((left.map calls).foldl Entities.start entities).keepalive =
      if (left.forM fun wfId => tolerate ((calls wfId).reply (entities.server wfId))).isOk then
        .ensuring []
      else .ended := by
  induction left generalizing entities with
  | nil => exact ensuring
  | cons first rest ih =>
      obtain ⟨fresh, distinct⟩ := List.nodup_cons.mp distinct
      have here : (entities.start (calls first)).keepalive =
          match tolerate ((calls first).reply (entities.server first)) with
          | .ok _ => .ensuring rest
          | .error _ => .ended := by
        simp [Entities.start, ensuring]
      have later : ∀ wfId ∈ rest,
          (entities.start (calls first)).server wfId = entities.server wfId := by
        intro wfId mem
        simp only [Entities.start, ensuring]
        exact serve_of_ne fun same => fresh (same ▸ mem)
      rw [List.map_cons, List.foldl_cons, List.forM_eq_forM, List.forM_cons]
      cases tolerated : tolerate ((calls first).reply (entities.server first)) with
      | error raised =>
          rw [tolerated] at here
          exact start_ended here (rest.map calls)
      | ok =>
          rw [tolerated] at here
          have same : (rest.forM fun wfId =>
                tolerate ((calls wfId).reply ((entities.start (calls first)).server wfId))).isOk =
              (rest.forM fun wfId =>
                tolerate ((calls wfId).reply (entities.server wfId))).isOk := by
            rw [Bool.eq_iff_iff, Results.isOk_forM, Results.isOk_forM]
            exact forall₂_congr fun wfId mem => by rw [later wfId mem]
          rw [ih distinct here, same]
          rfl

/-- The pass of the generator is `ensure_entities`. -/
theorem keepalive_of_ensureEntities (begun : entities.keepalive = .ensuring entityIds)
    (calls : String → Call) :
    ((entityIds.map calls).foldl Entities.start entities).keepalive =
      if (ensureEntities fun wfId => (calls wfId).reply (entities.server wfId)).isOk then
        .ensuring []
      else .ended :=
  keepalive_of_pass (by decide) begun calls

/-- Whatever is asked for and listed, no request terminates more than it may. -/
theorem within_step (within : ∀ termination ∈ entities.requests, termination.Within)
    (label : Label) : ∀ termination ∈ (entities.step label).requests, termination.Within := by
  have returns {request : Nat} {termination : Termination} (change : Termination)
      (fine : change.Within) (mem : termination ∈ entities.requests.set request change) :
      termination.Within := by
    rcases List.mem_or_eq_of_mem_set mem with old | rfl
    · exact within termination old
    · exact fine
  intro termination mem
  cases label with
  | start call =>
      dsimp only [Entities.step, Entities.start] at mem
      split at mem <;> exact within termination mem
  | wake =>
      dsimp only [Entities.step] at mem
      split at mem <;> exact within termination mem
  | close wfId => exact within termination mem
  | request count =>
      rcases List.mem_append.mp mem with old | new
      · exact within termination old
      · rw [List.mem_singleton.mp new]
        exact Termination.within_of_fresh count
  | listed request =>
      obtain ⟨index, found⟩ := List.mem_iff_getElem?.mp mem
      dsimp only [Entities.step] at found
      rw [List.getElem?_modify] at found
      obtain ⟨before, here, rfl⟩ := Option.map_eq_some_iff.mp found
      have fine := within before (List.mem_of_getElem? here)
      split
      · exact fine.returns
      · exact fine
  | list request region =>
      dsimp only [Entities.step, terminate] at mem
      split at mem
      · exact within termination mem
      · next before here =>
          have fine := within before (List.mem_of_getElem? here)
          split at mem
          · exact within termination mem
          · next goesOn =>
              split at mem
              · exact returns _ (fine.append (eq_false_of_ne_true goesOn) region) mem
              · exact returns _ fine.returns mem

end Steps

/-- A request terminates as many executions as it asks for at most, or one if it asks for
fewer, and only regions. -/
theorem terminations_within (labels : List Label) :
    ∀ termination ∈ (run labels).requests, termination.Within := by
  have kept (entities : Entities) (label : Label)
      (within : ∀ termination ∈ entities.requests, termination.Within) :
      ∀ termination ∈ (entities.step label).requests, termination.Within :=
    within_step within label
  exact Fold.foldl_of_invariant kept (List.forall_mem_nil _) labels

/-- Once `ensure_entities` has gone through, each entity that nothing has ended meanwhile is
running: in the execution that ran before, or else in exactly one new one. -/
theorem entities_started_anew {before pass : List Label} {wfId : String}
    (known : wfId ∈ entityIds) (begun : (run before).keepalive = .ensuring entityIds)
    (spared : Fold.Along step (fun entities label => ¬ Closes wfId entities label)
      (run before) pass)
    (done : (run (before ++ pass)).keepalive = .sleeping) :
    (run (before ++ pass)).server wfId = ((run before).server wfId).start := by
  have start : Ensured wfId ((run before).server wfId) (run before) := .ahead begun known rfl
  have split : run (before ++ pass) = pass.foldl step (run before) := List.foldl_append
  rw [split] at done ⊢
  rcases start.run spared with ⟨ensuring, _, _⟩ | runs | ended
  · cases done.symm.trans ensuring
  · exact runs
  · cases done.symm.trans ended

/-- All nine entities are started, and the pass is over. -/
def answeredPass : List Label := List.replicate 10 (.start .answered)

/-- Two regions are terminated while the generator sleeps, and then it wakes. -/
def regionsTerminated : List Label :=
  answeredPass ++
    [.request 2, .list 0 "us-east", .list 0 "south", .list 0 "midwest", .wake]

/-- Another request comes by a region which was terminated already, before the generator
starts it anew. -/
def listedPass : List Label := .request 1 :: .list 1 "south" :: answeredPass

theorem entities_started_anew_of_two :
    (run (regionsTerminated ++ listedPass)).server "dispatch-south" =
      { started := 2, running := true } := by
  have known : "dispatch-south" ∈ entityIds := by decide
  have begun : (run regionsTerminated).keepalive = .ensuring entityIds := by decide
  have spared : Fold.Along step
      (fun entities label => ¬ Closes "dispatch-south" entities label)
      (run regionsTerminated) listedPass := by
    simp only [listedPass, answeredPass, List.replicate, Fold.Along]
    decide
  have done : (run (regionsTerminated ++ listedPass)).keepalive = .sleeping := by decide
  rw [entities_started_anew known begun spared done]
  decide

end Entities

end WardenDemo.Traffic
