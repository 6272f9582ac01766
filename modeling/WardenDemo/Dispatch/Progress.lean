import WardenDemo.Dispatch.Wakeup
import WardenDemo.Durable.Stretch

/-!
# The dispatch loop never spins

Each reason to wake is cleared by one pass of the loop: orders and inflation
suspend it, the status is published, and a long history continues as new. What
is bounded here holds at every program point, of any region object.
-/

namespace WardenDemo.Dispatch

open Durable

/-- The passes of the loop within a stretch which begin and end in it: between
two visits of the top of the loop lies one of them. -/
def fullPasses (visited : List Pc) : Nat := visited.count .loop - 1

/-- What stops a dispatch region: an await, its wait with nothing to wake it, or
the end of a pass which is due to continue as new. -/
inductive Pauses (history : Nat) : Pc → DispatchWorkflow → Prop where
  | marker {remaining self} : Pauses history (.awaitMarker remaining) self
  | sleep {self} : Pauses history .awaitSleep self
  | blocked {self : DispatchWorkflow} (asleep : self.wakes history = false) :
      Pauses history .wait self
  | assign {order courier self} : Pauses history (.awaitAssign order courier) self
  | reply {self} : Pauses history .awaitReply self
  | continues {self : DispatchWorkflow} (due : self.continueDue history = true) :
      Pauses history .checkContinue self

/-- A bound on how far the coroutine of a region still gets. -/
abbrev StopsWithin (history length passes : Nat) (pc : Pc) (self : DispatchWorkflow) : Prop :=
  dispatchWorkflow.StopsWithin .loop history length passes pc self

section Points

variable {history : Nat} {self : DispatchWorkflow}

theorem pauses_of_stops {pc : Pc} (stops : (DispatchWorkflow.step history pc self).Stops) :
    Pauses history pc self := by
  have taken := takes_step history pc self
  generalize DispatchWorkflow.step history pc self = action at taken stops
  cases taken with
  | marking => exact .marker
  | sleeps => exact .sleep
  | blocks asleep => exact .blocked asleep
  | accepting => exact .assign
  | replying => exact .reply
  | continues due => exact .continues due
  | _ => exact stops.elim

theorem StopsWithin.next {length passes : Nat} {pc : Pc} (other : pc ≠ .loop)
    (rest : ∀ {next self' commands}, Proceeds history pc self next self' commands →
      StopsWithin history length passes next self') :
    StopsWithin history (length + 1) passes pc self :=
  .of_next other fun stepped => rest (proceeds_of_step stepped)

/-- Only a region at the top of its loop begins another pass. -/
theorem StopsWithin.pass {length passes : Nat}
    (rest : ∀ {next self' commands}, Proceeds history .loop self next self' commands →
      StopsWithin history length passes next self') :
    StopsWithin history (length + 1) (passes + 1) .loop self := by
  cases inflating : self.degr.inflateHistory with
  | true =>
      have stepped : dispatchWorkflow.step history .loop self =
          .proceed (.inflate (DispatchWorkflow.inflateRounds self.degr)) self [] := by
        simp [dispatchWorkflow, DispatchWorkflow.step, inflating]
      exact .of_head stepped (rest (.inflates inflating))
  | false =>
      have stepped : dispatchWorkflow.step history .loop self = .proceed .wait self [] := by
        simp [dispatchWorkflow, DispatchWorkflow.step, inflating]
      exact .of_head stepped (rest (.waits inflating))

/-- The awaits other than the wait stop the coroutine. -/
theorem stopsWithin_of_await {length passes : Nat} {pc : Pc} (other : pc ≠ .loop)
    (suspends : DispatchWorkflow.step history pc self = .suspend) :
    StopsWithin history (length + 1) passes pc self := by
  refine .of_next other fun stepped => ?_
  have both := suspends.symm.trans stepped
  cases both

/-- Inflating suspends at a marker or at the sleep. -/
theorem stopsWithin_inflate (remaining : Nat) :
    StopsWithin history 2 0 (.inflate remaining) self := by
  refine .next nofun fun proceeds => ?_
  cases proceeds with
  | inflated => exact stopsWithin_of_await nofun rfl
  | marks => exact stopsWithin_of_await nofun rfl

/-- What a drain and the publishing before it leave. -/
def Cleared (self : DispatchWorkflow) : Prop :=
  self.pending = [] ∧ self.status = self.publishedStatus

/-- A cleared region which is not due to continue as new stays in its wait,
unless it inflates. -/
theorem wakes_eq_false_of_cleared (cleared : Cleared self)
    (steady : self.degr.inflateHistory = false) (due : self.continueDue history = false) :
    self.wakes history = false := by
  refine wakes_eq_false_iff.mpr ⟨cleared.1, steady, cleared.2, fun suspend => ?_⟩
  rcases continueDue_eq_false_iff.mp due with on | ⟨_, short⟩
  · simp [suspend] at on
  · exact short

theorem stopsWithin_loop_of_cleared (cleared : Cleared self)
    (due : self.continueDue history = false) : StopsWithin history 3 1 .loop self := by
  refine .pass fun proceeds => ?_
  cases proceeds with
  | inflates _ => exact stopsWithin_inflate _
  | waits steady =>
      refine .next nofun fun proceeds => ?_
      cases proceeds with
      | wakes woken =>
          rw [wakes_eq_false_of_cleared cleared steady due] at woken
          cases woken

/-- A region which drains with its status out makes no full pass any more. -/
theorem stopsWithin_drain_of_published (published : self.status = self.publishedStatus) :
    StopsWithin history 5 1 .drain self := by
  refine .next nofun fun proceeds => ?_
  cases proceeds with
  | assigns _ _ => exact stopsWithin_of_await nofun rfl
  | synthesises _ _ => exact stopsWithin_of_await nofun rfl
  | drained empty =>
      refine .next nofun fun proceeds => ?_
      cases proceeds with
      | stays due => exact stopsWithin_loop_of_cleared ⟨empty, published⟩ due

theorem stopsWithin_publish : StopsWithin history 6 1 .publish self := by
  refine .next nofun fun proceeds => ?_
  cases proceeds with
  | unchanged same => exact stopsWithin_drain_of_published same
  | publishes _ => exact stopsWithin_drain_of_published rfl

theorem stopsWithin_wait : StopsWithin history 7 1 .wait self := by
  refine .next nofun fun proceeds => ?_
  cases proceeds with
  | wakes _ => exact stopsWithin_publish

theorem stopsWithin_loop : StopsWithin history 8 2 .loop self := by
  refine .pass fun proceeds => ?_
  cases proceeds with
  | inflates _ => exact (stopsWithin_inflate _).mono (by omega) (by omega)
  | waits _ => exact stopsWithin_wait

/-- A drain which goes on may have let the status go stale: one full pass
follows it. -/
theorem stopsWithin_drain : StopsWithin history 10 2 .drain self := by
  refine .next nofun fun proceeds => ?_
  cases proceeds with
  | assigns _ _ => exact stopsWithin_of_await nofun rfl
  | synthesises _ _ => exact stopsWithin_of_await nofun rfl
  | drained _ =>
      refine .next nofun fun proceeds => ?_
      cases proceeds with
      | stays _ => exact stopsWithin_loop

/-- The coroutine stops wherever it is, after one full pass at most. -/
theorem stopsWithin (pc : Pc) : StopsWithin history 11 2 pc self := by
  cases pc with
  | loop => exact stopsWithin_loop.mono (by omega) (by omega)
  | wait => exact stopsWithin_wait.mono (by omega) (by omega)
  | publish => exact stopsWithin_publish.mono (by omega) (by omega)
  | drain => exact stopsWithin_drain.mono (by omega) (by omega)
  | inflate remaining => exact (stopsWithin_inflate remaining).mono (by omega) (by omega)
  | entry _ =>
      refine .next nofun fun proceeds => ?_
      cases proceeds with
      | entry => exact stopsWithin_loop.mono (by omega) (by omega)
  | reply _ _ =>
      refine .next nofun fun proceeds => ?_
      cases proceeds with
      | replies => exact stopsWithin_of_await nofun rfl
  | assigned =>
      refine .next nofun fun proceeds => ?_
      cases proceeds with
      | counts => exact stopsWithin_drain
  | checkContinue =>
      refine .next nofun fun proceeds => ?_
      cases proceeds with
      | stays _ => exact stopsWithin_loop.mono (by omega) (by omega)
  | awaitMarker _ | awaitSleep | awaitAssign _ _ | awaitReply => exact stopsWithin_of_await nofun rfl

end Points

/-- Within one workflow task the dispatch loop does not spin: whatever signals an
activation of a reachable region handles, and whatever await it resolves, the
coroutine comes by at most eleven program points and makes at most one full pass
of its loop before it is suspended or continues as new. -/
theorem never_spins {start : DispatchState} {trace : List Event} {pc next : Pc}
    {self : DispatchWorkflow} {history : Nat} {woken : List Event}
    (chain : dispatchWorkflow.Chain start trace (.running pc self history))
    (activation : Activation Signal) (later : history ≤ activation.history)
    (wake : dispatchWorkflow.wakeAt activation.wake pc
      (dispatchWorkflow.handleAll activation.signals self) = some (next, woken)) :
    ∃ visited last final, dispatchWorkflow.Stretch activation.history next
        (dispatchWorkflow.handleAll activation.signals self) visited last final ∧
      visited.length ≤ 11 ∧ fullPasses visited ≤ 1 ∧
      Pauses activation.history last final ∧
      ∃ events config, dispatchWorkflow.Chain start (trace ++ events) config := by
  obtain ⟨visited, last, final, stretch, short, few⟩ := stopsWithin next
  obtain ⟨events, config, activated⟩ := stretch.activates later wake
  refine ⟨visited, last, final, stretch, short, ?_, pauses_of_stops stretch.stopped,
    events, config, chain.activate activated⟩
  unfold fullPasses
  omega

/-- A region handles an S2 switch while it reports its last order back: the rest of
its pass is followed by a full one, which publishes the status. -/
theorem never_spins_of_switch :
    ∃ trace self, dispatchWorkflow.Chain
        { region := "south", pendingOrders := [⟨"7", "order-7"⟩] } trace
        (.running .awaitReply self 9) ∧
      ∃ visited last final, dispatchWorkflow.Stretch 15 .assigned
          (dispatchWorkflow.handleAll [.setDegradation { suspendCan := true }] self)
          visited last final ∧
        visited.length ≤ 11 ∧ fullPasses visited ≤ 1 ∧ Pauses 15 last final := by
  have chain := Workflow.Chain.of_replay dispatchWorkflow 10
    { region := "south", pendingOrders := [⟨"7", "order-7"⟩] }
    [⟨[], none, 3⟩, ⟨[], some .activityCompleted, 9⟩] rfl
  obtain ⟨visited, last, final, stretch, short, few, pauses, _⟩ := never_spins chain
    ⟨[.setDegradation { suspendCan := true }], some .signalSent, 15⟩ (by decide) rfl
  exact ⟨_, _, chain, visited, last, final, stretch, short, few, pauses⟩

end WardenDemo.Dispatch
