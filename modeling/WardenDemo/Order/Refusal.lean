import WardenDemo.Order.Independence

/-!
# A settlement which cannot be started

The settlement child is asked for once all activities have succeeded, and the server may
refuse to start it. The order then fails where it would have returned, with the rest of its
script behind it.
-/

namespace WardenDemo.Order

open Durable

/-- A resolution agrees with the outcomes of the activities. -/
def endsAs (outcomes : Activity → Bool) (resolved : Pc × Resolution) : Bool :=
  match resolved.1.place, resolved.2 with
  | .awaitCall activity, .activityCompleted => outcomes activity
  | .awaitCall activity, .activityFailed => !outcomes activity
  | _, _ => true

/-- A resolution by which the settlement child is not started. -/
def refuses (resolved : Pc × Resolution) : Bool :=
  match resolved.1.place, resolved.2 with
  | .awaitSettle, .childFailed => true
  | _, _ => false

/-- Each activity of a trace finally succeeds or fails as the outcomes say; the settlement
child may start or not. -/
def Ends (outcomes : Activity → Bool) (trace : List Event) : Prop :=
  ∀ resolved ∈ resolutions trace, endsAs outcomes resolved = true

/-- The settlement child was asked for, and was not started. -/
def Refused (trace : List Event) : Prop :=
  ∃ resolved ∈ resolutions trace, refuses resolved = true

instance (outcomes : Activity → Bool) (trace : List Event) : Decidable (Ends outcomes trace) :=
  inferInstanceAs (Decidable (∀ resolved ∈ resolutions trace, endsAs outcomes resolved = true))

instance (trace : List Event) : Decidable (Refused trace) :=
  inferInstanceAs (Decidable (∃ resolved ∈ resolutions trace, refuses resolved = true))

section Traces

variable {outcomes : Activity → Bool} {trace events : List Event}

theorem ends_append :
    Ends outcomes (trace ++ events) ↔ Ends outcomes trace ∧ Ends outcomes events := by
  simp only [Ends, resolutions, collect_append, List.mem_append, or_imp, forall_and]

theorem refused_append : Refused (trace ++ events) ↔ Refused trace ∨ Refused events := by
  simp only [Refused, resolutions, collect_append, List.mem_append, or_and_right, exists_or]

/-- Events which resolve nothing refuse nothing. -/
theorem refused_append_of_silent (silent : resolutions events = []) :
    Refused (trace ++ events) ↔ Refused trace := by
  rw [refused_append, or_iff_left]
  rintro ⟨resolved, mem, _⟩
  rw [silent] at mem
  cases mem

theorem agrees_eq (outcomes : Activity → Bool) (resolved : Pc × Resolution) :
    agrees outcomes resolved = (endsAs outcomes resolved && !refuses resolved) := by
  obtain ⟨⟨inp, place⟩, resolution⟩ := resolved
  cases place <;> cases resolution <;> simp [agrees, endsAs, refuses]

/-- A run which follows the outcomes is one whose settlement is not refused. -/
theorem follows_iff : Follows outcomes trace ↔ Ends outcomes trace ∧ ¬ Refused trace := by
  simp only [Follows, Ends, Refused, agrees_eq, Bool.and_eq_true, Bool.not_eq_true',
    not_exists, not_and, Bool.not_eq_true, forall_and]

end Traces

/-- A run whose settlement was refused has only to fail; the script it went through is that
of an order which returns. -/
def Cut (outcomes : Activity → Bool) (inp : OrderInput) (trace : List Event) (pc : Pc) : Prop :=
  Ends outcomes trace → Refused trace →
    pc.place = .raised ∧
      untilFailure outcomes (saga inp) = milestones trace ++ [.returns "delivered"]

section Steps

variable {outcomes : Activity → Bool} {inp : OrderInput} {trace events : List Event}
  {pc next : Pc} {self self' : OrderWorkflow} {history : Nat} {commands : List Command}

/-- Events which resolve nothing, and are no milestones, leave a cut run as it is. -/
theorem Cut.append (cut : Cut outcomes inp trace pc) (silent : resolutions events = [])
    (quiet : milestones events = []) : Cut outcomes inp (trace ++ events) pc := by
  intro ends refused
  have unread : milestones (trace ++ events) = milestones trace :=
    collect_append_of_nil quiet trace
  rw [unread]
  exact cut (ends_append.mp ends).1 ((refused_append_of_silent silent).mp refused)

/-- Only the refusal itself cuts a run, and finds nothing left of the script but the end. -/
theorem Cut.resumes {resolution : Resolution} (cut : Cut outcomes inp trace pc)
    (scripted : Follows outcomes trace → Scripted outcomes inp trace pc self)
    (resumed : OrderWorkflow.resume resolution pc self = some next) :
    Cut outcomes inp (trace ++ [.resolved pc resolution]) next := by
  intro ends refused
  obtain ⟨inp', place⟩ := pc
  obtain ⟨earlier, _⟩ := ends_append.mp ends
  have onward : ¬ Refused trace := by
    intro before
    obtain ⟨raised, _⟩ := cut earlier before
    obtain rfl : place = .raised := raised
    cases resolution <;> cases resumed
  have here : refuses (⟨inp', place⟩, resolution) = true := by
    rcases refused_append.mp refused with before | ⟨resolved, mem, refusal⟩
    · exact absurd before onward
    · rwa [List.mem_singleton.mp mem] at refusal
  obtain ⟨rfl, rfl⟩ : place = .awaitSettle ∧ resolution = .childFailed := by
    cases place <;> cases resolution <;> first | exact ⟨rfl, rfl⟩ | cases here
  cases resumed
  refine ⟨rfl, ?_⟩
  have unread : milestones (trace ++ [.resolved ⟨inp', .awaitSettle⟩ .childFailed]) =
      milestones trace := collect_append_of_nil rfl trace
  rw [unread, (scripted (follows_iff.mpr ⟨earlier, onward⟩)).script]
  rfl

/-- Nothing is done where the order has raised. -/
theorem Cut.proceeds (cut : Cut outcomes inp trace pc)
    (stepped : orderWorkflow.step history pc self = .proceed next self' commands) :
    Cut outcomes inp (trace ++ commands.map .issued) next := by
  intro ends refused
  have silent : resolutions (commands.map .issued : List Event) = [] :=
    collect_issued (fun _ => rfl) commands
  obtain ⟨raised, _⟩ :=
    cut (ends_append.mp ends).1 ((refused_append_of_silent silent).mp refused)
  obtain ⟨inp', place⟩ := pc
  obtain rfl : place = .raised := raised
  cases stepped

/-- Every run follows its script, or is cut at the end of it. -/
def cut (outcomes : Activity → Bool) (prompt : inp.forceTimeout = false) :
    orderWorkflow.Invariant inp where
  Idle trace pc self history :=
    (scripted outcomes prompt).Idle trace pc self history ∧ Cut outcomes inp trace pc
  Busy trace pc self history :=
    (scripted outcomes prompt).Busy trace pc self history ∧ Cut outcomes inp trace pc
  initial := ⟨(scripted outcomes prompt).initial, fun _ refused => nomatch refused⟩
  handled signal holds := by
    exact ⟨(scripted outcomes prompt).handled signal holds.1, holds.2.append rfl rfl⟩
  advanced holds later := by
    exact ⟨(scripted outcomes prompt).advanced holds.1 later, holds.2.append rfl rfl⟩
  resolved holds later resumed := by
    exact ⟨(scripted outcomes prompt).resolved holds.1 later resumed,
      (holds.2.resumes holds.1 resumed).append rfl rfl⟩
  proceeds holds stepped := by
    exact ⟨(scripted outcomes prompt).proceeds holds.1 stepped, holds.2.proceeds stepped⟩
  suspends holds _ := holds
  continues _ stepped := absurd stepped not_continues

end Steps

section Runs

variable {outcomes : Activity → Bool} {inp : OrderInput} {trace : List Event} {config : Config}

/-- An order whose settlement is refused has gone through the script of one which returns, and
fails at the end of it. -/
theorem milestones_of_refused (prompt : inp.forceTimeout = false)
    (chain : orderWorkflow.Chain inp trace config) (ends : Ends outcomes trace)
    (refused : Refused trace) (closed : config.Closed) :
    config = .failed ∧ ∃ before, milestones trace = before ++ [.raises] ∧
      untilFailure outcomes (saga inp) = before ++ [.returns "delivered"] := by
  cases config with
  | running pc order history => exact closed.elim
  | completed result =>
      obtain ⟨before, pc, _, _, rfl, ⟨_, cut⟩, stepped⟩ :=
        (cut outcomes prompt).of_completed chain
      have raised := (cut (ends_append.mp ends).1 ((refused_append_of_silent rfl).mp refused)).1
      rw [(completes_of_step stepped).1] at raised
      cases raised
  | failed =>
      obtain ⟨before, pc, _, _, rfl, ⟨_, cut⟩, _⟩ := (cut outcomes prompt).of_chain chain
      have script := (cut (ends_append.mp ends).1 ((refused_append_of_silent rfl).mp refused)).2
      refine ⟨rfl, milestones before, ?_, script⟩
      rw [milestones, milestones, collect_append]
      rfl

theorem settlements_append (before : List Milestone) {last : Milestone}
    (other : last.isSettlement = false) :
    settlements (before ++ [last]) = settlements before := by
  simp [settlements, other]

/-- An order which is over has started as many settlements as its script has, whether or not
the server has granted them. -/
theorem settlements_of_closed (prompt : inp.forceTimeout = false)
    (chain : orderWorkflow.Chain inp trace config) (ends : Ends outcomes trace)
    (closed : config.Closed) :
    settlements (milestones trace) = settlements (untilFailure outcomes (saga inp)) := by
  by_cases refused : Refused trace
  · obtain ⟨_, before, failed, script⟩ := milestones_of_refused prompt chain ends refused closed
    rw [failed, script, settlements_append before rfl, settlements_append before rfl]
  · have follows := follows_iff.mpr ⟨ends, refused⟩
    rw [(milestones_of_closed prompt chain follows closed).1]

/-- An order which is over returned if its activities succeeded and its settlement was
started, and has failed otherwise. -/
theorem ending_of_closed (prompt : inp.forceTimeout = false)
    (chain : orderWorkflow.Chain inp trace config) (ends : Ends outcomes trace)
    (closed : config.Closed) :
    config = if succeeds outcomes (saga inp) ∧ ¬ Refused trace then .completed "delivered"
      else .failed := by
  by_cases refused : Refused trace
  · rw [if_neg fun passed => passed.2 refused]
    exact (milestones_of_refused prompt chain ends refused closed).1
  · have follows := follows_iff.mpr ⟨ends, refused⟩
    rw [(milestones_of_closed prompt chain follows closed).2, ending]
    simp [refused]

end Runs

end WardenDemo.Order
