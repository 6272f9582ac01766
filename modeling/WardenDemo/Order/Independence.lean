import WardenDemo.Order.Script
import WardenDemo.Order.Descent
import WardenDemo.Durable.Schedule

/-!
# What dispatch can change

The couriers assigned, and whether the region could be signalled, reach nothing
but the courier of an order. Every run follows the script of its activities'
outcomes to its end, whatever dispatch does.
-/

namespace WardenDemo.Order

open Durable

/-- A resolution agrees with the outcomes of the activities; the child starts. -/
def agrees (outcomes : Activity → Bool) (resolved : Pc × Resolution) : Bool :=
  match resolved.1.place, resolved.2 with
  | .awaitCall activity, .activityCompleted => outcomes activity
  | .awaitCall activity, .activityFailed => !outcomes activity
  | .awaitSettle, .childFailed => false
  | _, _ => true

/-- Each activity of a trace finally succeeds or fails as the outcomes say, and the settlement
child is started. -/
def Follows (outcomes : Activity → Bool) (trace : List Event) : Prop :=
  ∀ resolved ∈ resolutions trace, agrees outcomes resolved = true

instance (outcomes : Activity → Bool) (trace : List Event) :
    Decidable (Follows outcomes trace) :=
  inferInstanceAs (Decidable (∀ resolved ∈ resolutions trace, agrees outcomes resolved = true))

theorem follows_append {outcomes : Activity → Bool} {trace events : List Event} :
    Follows outcomes (trace ++ events) ↔ Follows outcomes trace ∧ Follows outcomes events := by
  simp only [Follows, resolutions, collect_append, List.mem_append, or_imp, forall_and]

/-- What has happened and what is left to do make up the script. -/
structure Scripted (outcomes : Activity → Bool) (inp : OrderInput) (trace : List Event)
    (pc : Pc) (order : OrderWorkflow) : Prop where
  input : pc.inp = inp
  tracked : pc.place ≠ .start → order.trackStages = inp.trackStages
  script : untilFailure outcomes (saga inp) =
    milestones trace ++ pc.place.remaining outcomes inp

section Steps

variable {outcomes : Activity → Bool} {inp : OrderInput} {trace events : List Event}
  {place : Place} {pc next : Pc} {self self' : OrderWorkflow} {history : Nat}
  {commands : List Command}

/-- Events which are no milestones leave the script where it was. -/
theorem Scripted.append (holds : Scripted outcomes inp trace pc self)
    (quiet : milestones events = []) (same : self'.trackStages = self.trackStages) :
    Scripted outcomes inp (trace ++ events) pc self' := by
  refine ⟨holds.input, fun started => same.trans (holds.tracked started), ?_⟩
  have unread : milestones (trace ++ events) = milestones trace :=
    collect_append_of_nil quiet trace
  rw [holds.script, unread]

theorem Scripted.proceeds (prompt : inp.forceTimeout = false)
    (holds : Scripted outcomes inp trace pc self)
    (stepped : orderWorkflow.step history pc self = .proceed next self' commands) :
    Scripted outcomes inp (trace ++ commands.map .issued) next self' := by
  obtain ⟨_, place⟩ := pc
  obtain ⟨rfl, tracked, script⟩ := holds
  obtain ⟨input, _, stages⟩ := moves_of_step stepped
  refine ⟨input, fun _ => ?_, ?_⟩
  · rw [stages]
    split
    · rfl
    · exact tracked (by assumption)
  · rw [script, remaining_of_step prompt tracked stepped, milestones, milestones, milestones,
      collect_append, List.append_assoc]

/-- An await which is resolved as the outcomes say leaves the same to do. -/
theorem remaining_of_resumePlace {resolution : Resolution} {next : Place}
    (agree : agrees outcomes (⟨inp, place⟩, resolution) = true)
    (resumed : OrderWorkflow.resumePlace resolution place self = some next) :
    next.remaining outcomes inp = place.remaining outcomes inp := by
  unfold OrderWorkflow.resumePlace at resumed
  split at resumed
  case h_1 activity =>
      cases resumed
      have succeeded : outcomes activity = true := agree
      rw [Activity.remaining_next, Place.remaining, if_pos succeeded]
  case h_2 activity =>
      cases resumed
      have failed : outcomes activity = false := by simpa [agrees] using agree
      simp [Place.remaining, failed]
  case h_3 =>
      cases resumed
      exact Timer.remaining_next outcomes inp _
  case h_6 => split at resumed <;> cases resumed <;> rfl
  case h_8 => cases agree
  case h_9 => cases resumed
  all_goals
    cases resumed
    rfl

theorem Scripted.resumes {resolution : Resolution}
    (holds : Scripted outcomes inp trace pc self)
    (agree : agrees outcomes (pc, resolution) = true)
    (resumed : OrderWorkflow.resume resolution pc self = some next)
    (onward : pc.place ≠ .start) :
    Scripted outcomes inp trace next self := by
  obtain ⟨input, reached⟩ := resumes_of_resume resumed
  obtain ⟨rfl, tracked, script⟩ := holds
  refine ⟨input, fun _ => tracked onward, ?_⟩
  rwa [remaining_of_resumePlace agree reached]

/-- Nothing is resolved before the order has started. -/
theorem started_of_resume {resolution : Resolution}
    (resumed : OrderWorkflow.resume resolution pc self = some next) : pc.place ≠ .start := by
  obtain ⟨inp, place⟩ := pc
  rintro rfl
  cases resolution <;> cases resumed

/-- Every run whose activities end as the outcomes say follows the script. -/
def scripted (outcomes : Activity → Bool) (prompt : inp.forceTimeout = false) :
    orderWorkflow.Invariant inp where
  Idle trace pc self _ := Follows outcomes trace → Scripted outcomes inp trace pc self
  Busy trace pc self _ := Follows outcomes trace → Scripted outcomes inp trace pc self
  initial _ := ⟨rfl, fun started => absurd rfl started, rfl⟩
  handled signal holds follows := by
    exact (holds (follows_append.mp follows).1).append rfl rfl
  advanced holds _ follows := (holds (follows_append.mp follows).1).append rfl rfl
  resolved {_ pc _ _ _ resolution _} holds _ resumed follows := by
    rw [List.append_assoc] at follows ⊢
    obtain ⟨earlier, now⟩ := follows_append.mp follows
    have agree : agrees outcomes (pc, resolution) = true := now _ (List.mem_singleton.mpr rfl)
    exact ((holds earlier).resumes agree resumed (started_of_resume resumed)).append rfl rfl
  proceeds holds stepped follows := (holds (follows_append.mp follows).1).proceeds prompt stepped
  suspends holds _ := holds
  continues _ stepped := absurd stepped not_continues

end Steps

section Runs

variable {outcomes : Activity → Bool} {inp : OrderInput} {trace : List Event} {config : Config}
  {pc : Pc} {self : OrderWorkflow} {history : Nat}

/-- Whatever an order awaits can be resolved as the outcomes say. -/
theorem answered (outcomes : Activity → Bool)
    (suspended : orderWorkflow.step history pc self = .suspend) :
    ∃ resolution next, agrees outcomes (pc, resolution) = true ∧
      orderWorkflow.resume resolution pc self = some next := by
  obtain ⟨inp, place⟩ := pc
  cases place with
  | awaitCall activity =>
      cases outcome : outcomes activity with
      | true => exact ⟨.activityCompleted, _, outcome, rfl⟩
      | false => exact ⟨.activityFailed, _, by simp [agrees, outcome], rfl⟩
  | awaitSleep timer => exact ⟨.timerFired, _, rfl, rfl⟩
  | awaitRequest => exact ⟨.signalSent, _, rfl, rfl⟩
  | awaitSettle => exact ⟨.childStarted, _, rfl, rfl⟩
  | awaitCourier =>
      cases courier : self.courierId with
      | none => exact ⟨.timerFired, ⟨inp, .fallback⟩, rfl, by
          simp [orderWorkflow, OrderWorkflow.resume, OrderWorkflow.resumePlace, courier]⟩
      | some courierId => exact ⟨.timerFired, ⟨inp, .awaitCourier⟩, rfl, by
          simp [orderWorkflow, OrderWorkflow.resume, OrderWorkflow.resumePlace, courier]⟩
  | _ => cases suspended

/-- How an order ends whose activities have the given outcomes. -/
def ending (outcomes : Activity → Bool) (inp : OrderInput) : Config :=
  if succeeds outcomes (saga inp) then .completed "delivered" else .failed

/-- A script ends by what becomes of its activities. -/
theorem last_of_script {before : List Milestone} {last : Milestone}
    (script : untilFailure outcomes (saga inp) = before ++ [last]) :
    last = if succeeds outcomes (saga inp) then .returns "delivered" else .raises := by
  have ends := getLast?_untilFailure outcomes (saga inp)
  rw [script, List.getLast?_concat] at ends
  exact Option.some.inj ends

/-- A run which is over has gone through the whole script. -/
theorem milestones_of_closed (prompt : inp.forceTimeout = false)
    (chain : orderWorkflow.Chain inp trace config) (follows : Follows outcomes trace)
    (closed : config.Closed) :
    milestones trace = untilFailure outcomes (saga inp) ∧ config = ending outcomes inp := by
  cases config with
  | running pc order history => exact closed.elim
  | completed result =>
      obtain ⟨before, ⟨_, place⟩, order, history, rfl, holds, stepped⟩ :=
        (scripted outcomes prompt).of_completed chain
      obtain ⟨rfl, rfl⟩ := completes_of_step stepped
      have script : untilFailure outcomes (saga inp) =
          milestones before ++ [.returns "delivered"] :=
        (holds (follows_append.mp follows).1).script
      have last := last_of_script script
      refine ⟨?_, ?_⟩
      · rw [script, milestones, milestones, collect_append]
        rfl
      · rw [ending]
        split
        · rfl
        · next failed =>
            rw [if_neg failed] at last
            cases last
  | failed =>
      obtain ⟨before, ⟨_, place⟩, order, history, rfl, holds, stepped⟩ :=
        (scripted outcomes prompt).of_chain chain
      obtain rfl := fails_of_step stepped
      have script : untilFailure outcomes (saga inp) = milestones before ++ [.raises] :=
        (holds (follows_append.mp follows).1).script
      have last := last_of_script script
      refine ⟨?_, ?_⟩
      · rw [script, milestones, milestones, collect_append]
        rfl
      · rw [ending]
        split
        · next succeeded =>
            rw [if_pos succeeded] at last
            cases last
        · rfl

/-- At every time a run has done a part of the script. -/
theorem begins_script (prompt : inp.forceTimeout = false)
    (chain : orderWorkflow.Chain inp trace config) (follows : Follows outcomes trace) :
    milestones trace <+: untilFailure outcomes (saga inp) := by
  cases config with
  | completed _ | failed =>
      have whole := (milestones_of_closed prompt chain follows trivial).1
      refine ⟨[], ?_⟩
      rwa [List.append_nil]
  | running pc order history =>
      have script := ((scripted outcomes prompt).of_running chain follows).script
      exact ⟨_, script.symm⟩

end Runs

/-- Whatever couriers are assigned to an order, and whether its region can be
signalled: any two runs with the same outcomes of the activities end alike after
the same milestones, those of the saga up to the first activity which fails.
Each run gets there after thirty resolved awaits at most, and starts its
settlement once if all activities succeed and otherwise never. -/
theorem dispatch_changes_only_courier {inp : OrderInput} (prompt : inp.forceTimeout = false)
    (outcomes : Activity → Bool) :
    (∀ {trace trace' config config'},
      orderWorkflow.Chain inp trace config → orderWorkflow.Chain inp trace' config' →
      Follows outcomes trace → Follows outcomes trace' → config.Closed → config'.Closed →
      config = config' ∧ milestones trace = milestones trace' ∧
        milestones trace = untilFailure outcomes (saga inp)) ∧
    (∀ {trace config}, orderWorkflow.Chain inp trace config → Follows outcomes trace →
      milestones trace <+: untilFailure outcomes (saga inp) ∧
        (resolutions trace).length ≤ 30 ∧
        ∃ events config', orderWorkflow.Chain inp (trace ++ events) config' ∧
          config'.Closed ∧ Follows outcomes (trace ++ events)) ∧
    ((∀ activity, outcomes activity = true) →
      settlements (untilFailure outcomes (saga inp)) = 1) ∧
    ((∃ activity, outcomes activity = false) →
      settlements (untilFailure outcomes (saga inp)) = 0) := by
  refine ⟨?_, ?_, ?_, ?_⟩
  · intro trace trace' config config' chain chain' follows follows' closed closed'
    obtain ⟨script, ends⟩ := milestones_of_closed prompt chain follows closed
    obtain ⟨script', ends'⟩ := milestones_of_closed prompt chain' follows' closed'
    exact ⟨ends.trans ends'.symm, script.trans script'.symm, script⟩
  · intro trace config chain follows
    have finishes : Workflow.Descent.Finishes orderWorkflow inp
        (fun answer => agrees outcomes answer = true) trace :=
      descent.finishes (answered outcomes) chain
    obtain ⟨events, config', onward, closed, answers⟩ := finishes
    exact ⟨begins_script prompt chain follows, descent.resolutions_le chain,
      events, config', onward, closed, follows_append.mpr ⟨follows, answers⟩⟩
  · intro succeed
    rw [settlements_saga, if_pos ((succeeds_saga_iff inp outcomes).mpr succeed)]
  · rintro ⟨activity, failed⟩
    rw [settlements_saga, if_neg]
    intro succeed
    rw [(succeeds_saga_iff inp outcomes).mp succeed activity] at failed
    cases failed

/-- An order whose courier was assigned in time, and the same order when its
region could not be signalled and the wait timed out. -/
theorem dispatch_changes_only_courier_of_delivered :
    ∃ trace trace', orderWorkflow.Chain
        { orderId := "0123456789ab", region := "us-west", restaurantId := "r1" } trace
        (.completed "delivered") ∧
      orderWorkflow.Chain
        { orderId := "0123456789ab", region := "us-west", restaurantId := "r1" } trace'
        (.completed "delivered") ∧
      publications trace = ["7-ab"] ∧ publications trace' = ["synthetic-01234567"] ∧
      milestones trace = milestones trace' ∧ (resolutions trace).length ≤ 30 ∧
      settlements (milestones trace) = 1 := by
  have chain := Workflow.Chain.of_replay orderWorkflow 10
    { orderId := "0123456789ab", region := "us-west", restaurantId := "r1" }
    [⟨[], none, 3⟩, ⟨[], some .activityCompleted, 9⟩, ⟨[], some .activityCompleted, 15⟩,
      ⟨[], some .activityCompleted, 21⟩, ⟨[], some .timerFired, 26⟩,
      ⟨[], some .activityCompleted, 32⟩, ⟨[], some .timerFired, 38⟩,
      ⟨[.courierAssigned "7-ab"], some .signalSent, 44⟩, ⟨[], some .activityCompleted, 50⟩,
      ⟨[], some .timerFired, 56⟩, ⟨[], some .activityCompleted, 62⟩,
      ⟨[], some .childStarted, 68⟩] rfl
  have chain' := Workflow.Chain.of_replay orderWorkflow 10
    { orderId := "0123456789ab", region := "us-west", restaurantId := "r1" }
    [⟨[], none, 3⟩, ⟨[], some .activityCompleted, 9⟩, ⟨[], some .activityCompleted, 15⟩,
      ⟨[], some .activityCompleted, 21⟩, ⟨[], some .timerFired, 26⟩,
      ⟨[], some .activityCompleted, 32⟩, ⟨[], some .timerFired, 38⟩,
      ⟨[], some .signalFailed, 44⟩, ⟨[], some .timerFired, 49⟩,
      ⟨[], some .activityCompleted, 55⟩, ⟨[], some .timerFired, 61⟩,
      ⟨[], some .activityCompleted, 67⟩, ⟨[], some .childStarted, 73⟩] rfl
  obtain ⟨same, runs, once, _⟩ := @dispatch_changes_only_courier
    { orderId := "0123456789ab", region := "us-west", restaurantId := "r1" } rfl fun _ => true
  obtain ⟨_, alike, script⟩ := same chain chain' (by decide) (by decide) trivial trivial
  refine ⟨_, _, chain, chain', rfl, rfl, alike, (runs chain (by decide)).2.1, ?_⟩
  rw [script]
  exact once fun _ => rfl

end WardenDemo.Order
