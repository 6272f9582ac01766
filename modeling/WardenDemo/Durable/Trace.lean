import Mathlib.Data.List.Induction
import WardenDemo.Durable.Workflow

/-!
# Reading traces

What holds of a chain is a fact about what can be read off its trace. `collect`
reads one kind of thing, in the order it happened.
-/

namespace WardenDemo.Durable

variable {ε α : Type}

/-- What `read` makes of a trace, event by event. -/
def collect (read : ε → Option α) (trace : List ε) : List α := trace.filterMap read

@[simp] theorem collect_nil (read : ε → Option α) : collect read [] = [] := rfl

@[simp] theorem collect_cons (read : ε → Option α) (event : ε) (rest : List ε) :
    collect read (event :: rest) = (read event).toList ++ collect read rest := by
  cases here : read event <;> simp [collect, here]

@[simp] theorem collect_append (read : ε → Option α) (first second : List ε) :
    collect read (first ++ second) = collect read first ++ collect read second :=
  List.filterMap_append

/-- Events in which nothing is read leave what is read of the trace. -/
theorem collect_append_of_nil {read : ε → Option α} {events : List ε}
    (quiet : collect read events = []) (trace : List ε) :
    collect read (trace ++ events) = collect read trace := by
  rw [collect_append, quiet, List.append_nil]

theorem collect_append_eq_nil_iff {read : ε → Option α} {first second : List ε} :
    collect read (first ++ second) = [] ↔
      collect read first = [] ∧ collect read second = [] := by
  rw [collect_append, List.append_eq_nil_iff]

/-- What has been seen of a trace is seen of all that extend it. -/
theorem collect_append_ne_nil {read : ε → Option α} {trace : List ε}
    (something : collect read trace ≠ []) (events : List ε) :
    collect read (trace ++ events) ≠ [] := by
  intro nothing
  exact something (collect_append_eq_nil_iff.mp nothing).1

/-- A reader which only ever misses what another one sees reads a subsequence. -/
theorem collect_sublist {read all : ε → Option α} (trace : List ε)
    (misses : ∀ event, read event = none ∨ read event = all event) :
    (collect read trace).Sublist (collect all trace) := by
  induction trace with
  | nil => exact List.Sublist.refl _
  | cons event rest ih =>
      rw [collect_cons, collect_cons]
      rcases misses event with none | same
      · simpa [none] using ih.trans (List.sublist_append_right (all event).toList _)
      · rw [same]
        exact (List.Sublist.refl _).append ih

/-- Two readers which share out what a third one sees read all of it, up to order. -/
theorem collect_perm {read other all : ε → Option α} (trace : List ε)
    (shares : ∀ event, (read event = all event ∧ other event = none) ∨
      (read event = none ∧ other event = all event)) :
    (collect all trace).Perm (collect read trace ++ collect other trace) := by
  induction trace with
  | nil => exact List.Perm.refl _
  | cons event rest ih =>
      rw [collect_cons, collect_cons, collect_cons]
      rcases shares event with ⟨same, none⟩ | ⟨none, same⟩
      · rw [same, none, Option.toList_none, List.nil_append, List.append_assoc]
        exact ih.append_left _
      · rw [same, none, Option.toList_none, List.nil_append]
        exact (ih.append_left _).trans (List.perm_append_comm_assoc _ _ _)

/-- When the other reader gets nothing, the first one reads everything in order. -/
theorem collect_eq_of_nil {read other all : ε → Option α} {trace : List ε}
    (shares : ∀ event, (read event = all event ∧ other event = none) ∨
      (read event = none ∧ other event = all event))
    (nothing : collect other trace = []) : collect read trace = collect all trace := by
  have within : (collect read trace).Sublist (collect all trace) :=
    collect_sublist trace fun event => (shares event).symm.imp And.left And.left
  have lengths := (collect_perm trace shares).length_eq
  rw [nothing, List.append_nil] at lengths
  exact within.eq_of_length lengths.symm

/-- A trace from the first event which `read` sees. -/
def since (read : ε → Option α) (trace : List ε) : List ε :=
  trace.dropWhile fun event => (read event).isNone

theorem since_append_of_nil {read : ε → Option α} {trace : List ε}
    (nothing : collect read trace = []) (events : List ε) :
    since read (trace ++ events) = since read events := by
  apply List.dropWhile_append_of_pos
  intro event mem
  simp [List.filterMap_eq_nil_iff.mp nothing event mem]

theorem since_of_nil {read : ε → Option α} {trace : List ε}
    (nothing : collect read trace = []) : since read trace = [] := by
  simpa [since] using since_append_of_nil nothing []

theorem since_append_of_ne_nil {read : ε → Option α} {trace : List ε}
    (something : collect read trace ≠ []) (events : List ε) :
    since read (trace ++ events) = since read trace ++ events := by
  induction trace with
  | nil => exact absurd rfl something
  | cons event rest ih =>
      cases seen : read event with
      | some _ => simp [since, seen]
      | none =>
          have later : collect read rest ≠ [] := by simpa [seen] using something
          have same := ih later
          unfold since at same ⊢
          simp [seen, same]

/-- Events in which `other` sees nothing add nothing to what it sees since then. -/
theorem collect_since_append {β : Type} {read : ε → Option α} {other : ε → Option β}
    {events : List ε} (quiet : collect other events = []) (trace : List ε) :
    collect other (since read (trace ++ events)) = collect other (since read trace) := by
  by_cases nothing : collect read trace = []
  · rw [since_append_of_nil nothing, since_of_nil nothing, collect_nil]
    exact List.eq_nil_of_sublist_nil
      (quiet ▸ (List.dropWhile_sublist _).filterMap other)
  · rw [since_append_of_ne_nil nothing, collect_append_of_nil quiet]

theorem collect_since_append_ne_nil {β : Type} {read : ε → Option α} {other : ε → Option β}
    {trace : List ε} (seen : collect other (since read trace) ≠ []) (events : List ε) :
    collect other (since read (trace ++ events)) ≠ [] := by
  have something : collect read trace ≠ [] := by
    intro nothing
    rw [since_of_nil nothing] at seen
    exact seen rfl
  rw [since_append_of_ne_nil something]
  exact collect_append_ne_nil seen events

section Pairs

variable {read : ε → Option α}

/-- Everything `read` sees in a trace stands to the events after it as `holds` says. -/
def Followed (read : ε → Option α) (holds : α → List ε → Prop) (trace : List ε) : Prop :=
  ∀ ⦃before event after item⦄, trace = before ++ event :: after → read event = some item →
    holds item after

/-- Any two things `read` sees stand to the events between them as `holds` says. -/
def Spaced (read : ε → Option α) (holds : α → List ε → α → Prop) (trace : List ε) : Prop :=
  ∀ ⦃before first between second after earlier later⦄,
    trace = before ++ first :: between ++ second :: after →
    read first = some earlier → read second = some later → holds earlier between later

theorem Followed.nil {holds : α → List ε → Prop} : Followed read holds [] := by
  intro before event after item split
  simp at split

/-- A trace is extended by events which keep what holds of those before them. -/
theorem Followed.append {holds holds' : α → List ε → Prop} {trace events : List ε}
    (earlier : Followed read holds trace)
    (keeps : ∀ item after, holds item after → holds' item (after ++ events))
    (fresh : Followed read holds' events) : Followed read holds' (trace ++ events) := by
  intro before event after item split seen
  rcases List.append_eq_append_iff.mp split with ⟨rest, _, within⟩ | ⟨rest, prior, within⟩
  · exact fresh within seen
  · cases rest with
    | nil =>
        have whole : events = [] ++ event :: after := within.symm
        exact fresh whole seen
    | cons head rest =>
        obtain ⟨rfl, rfl⟩ := List.cons_eq_cons.mp within
        exact keeps item rest (earlier prior seen)

theorem Followed.of_nil {holds : α → List ε → Prop} {trace : List ε}
    (nothing : collect read trace = []) : Followed read holds trace := by
  rintro before event after item rfl seen
  simp [seen] at nothing

/-- The latest thing seen has nothing after it yet. -/
theorem Followed.singleton {holds : α → List ε → Prop} {event : ε} {item : α}
    (seen : read event = some item) (here : holds item []) :
    Followed read holds [event] := by
  intro before other after item' split seen'
  obtain ⟨rfl, rfl, rfl⟩ : before = [] ∧ other = event ∧ after = [] := by
    simpa [eq_comm] using List.append_eq_singleton_iff.mp split.symm
  rw [seen] at seen'
  cases seen'
  exact here

theorem Spaced.nil {holds : α → List ε → α → Prop} : Spaced read holds [] := by
  intro before first between second after earlier later split
  simp at split

/-- A new event is compared with everything seen before it. -/
theorem Spaced.append_singleton {holds : α → List ε → α → Prop} {trace : List ε} {event : ε}
    (spaced : Spaced read holds trace)
    (now : ∀ later, read event = some later →
      Followed read (fun earlier between => holds earlier between later) trace) :
    Spaced read holds (trace ++ [event]) := by
  intro before first between second after earlier later split seen seen'
  rcases List.eq_nil_or_concat after with rfl | ⟨rest, last, rfl⟩
  · obtain ⟨prior, same⟩ := List.append_inj' split rfl
    obtain rfl : event = second := by simpa using same
    exact now later seen' prior seen
  · have prior : trace = before ++ first :: between ++ second :: rest := by
      have ends : trace ++ [event] =
          (before ++ first :: between ++ second :: rest) ++ [last] := by simpa using split
      exact (List.append_inj' ends rfl).1
    exact spaced prior seen seen'

theorem Spaced.append_of_nil {holds : α → List ε → α → Prop} {trace events : List ε}
    (spaced : Spaced read holds trace) (nothing : collect read events = []) :
    Spaced read holds (trace ++ events) := by
  induction events using List.reverseRecOn with
  | nil => simpa using spaced
  | append_singleton events event ih =>
      obtain ⟨earlier, here⟩ := collect_append_eq_nil_iff.mp nothing
      rw [← List.append_assoc]
      refine (ih earlier).append_singleton ?_
      intro later seen
      simp [seen] at here

/-- What holds of the two events a trace is cut at. -/
theorem Spaced.of_cut {holds : α → List ε → α → Prop} {trace rest after : List ε}
    {first second : ε} {earlier later : α} (spaced : Spaced read holds trace) (skip length : Nat)
    (cut : trace.drop skip = first :: rest) (cut' : rest.drop length = second :: after)
    (seen : read first = some earlier) (seen' : read second = some later) :
    holds earlier (rest.take length) later := by
  have whole : trace = trace.take skip ++ first :: rest.take length ++ second :: after := by
    rw [List.append_assoc, List.cons_append, ← cut', List.take_append_drop, ← cut,
      List.take_append_drop]
  exact spaced whole seen seen'

end Pairs

section Runs

variable {Input Signal Obj Pc Command Result : Type}

/-- The input of the run an event starts through continue-as-new. -/
def successor : Event Input Signal Obj Pc Command Result → Option Input
  | .continuedAsNew input => some input
  | _ => none

/-- The inputs of the runs after the first; a trace with none is of one run. -/
def successors (trace : List (Event Input Signal Obj Pc Command Result)) : List Input :=
  collect successor trace

/-- A reader of none of the commands reads nothing while they are issued. -/
theorem collect_issued {read : Event Input Signal Obj Pc Command Result → Option α}
    (misses : ∀ command, read (.issued command) = none) (commands : List Command) :
    collect read (commands.map .issued) = [] := by
  induction commands with
  | nil => rfl
  | cons command rest ih => simp [misses command, ih]

theorem collect_append_issued {read : Event Input Signal Obj Pc Command Result → Option α}
    (misses : ∀ command, read (.issued command) = none)
    (trace : List (Event Input Signal Obj Pc Command Result)) (commands : List Command) :
    collect read (trace ++ commands.map .issued) = collect read trace :=
  collect_append_of_nil (collect_issued misses commands) trace

/-- A reader of none of a batch of signals reads nothing while it is handled. -/
theorem collect_handledEvents {read : Event Input Signal Obj Pc Command Result → Option α}
    (w : Workflow Input Signal Obj Pc Command Result) {pc : Pc} {signals : List Signal}
    (misses : ∀ signal ∈ signals, ∀ obj, read (.handled pc obj signal) = none) (obj : Obj) :
    collect read (w.handledEvents pc obj signals) = [] := by
  induction signals generalizing obj with
  | nil => rfl
  | cons signal rest ih =>
      have later := ih (fun other mem => misses other (List.mem_cons_of_mem _ mem))
      simp [Workflow.handledEvents, misses signal List.mem_cons_self, later]

/-- A reader of signals reads a batch as the signals it is made of. -/
theorem collect_handledEvents_eq {read : Event Input Signal Obj Pc Command Result → Option α}
    (w : Workflow Input Signal Obj Pc Command Result) {pc : Pc} {sent : Signal → Option α}
    (reads : ∀ obj signal, read (.handled pc obj signal) = sent signal) (signals : List Signal)
    (obj : Obj) : collect read (w.handledEvents pc obj signals) = collect sent signals := by
  induction signals generalizing obj with
  | nil => rfl
  | cons signal rest ih =>
      rw [Workflow.handledEvents, collect_cons, collect_cons, reads, ih]

end Runs

end WardenDemo.Durable
