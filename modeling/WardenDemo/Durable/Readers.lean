import Mathlib.Logic.Function.Basic

/-!
# Readers of a log

A writer appends to a log, and readers look at it now and then. What a reader holds is
the prefix of the log it has seen, until it looks again or forgets.
-/

namespace WardenDemo.Durable

variable {Name Update View : Type}

/-- A log, and how much of it each reader has seen. -/
structure Readers (Name Update : Type) where
  log : List Update := []
  seen : Name → Option Nat := fun _ => none

namespace Readers

inductive Label (Name Update : Type) where
  | publish (updates : List Update)
  | catchUp (name : Name)
  | forget (name : Name)

/-- The reader a label is about. -/
def Label.reader : Label Name Update → Option Name
  | .publish _ => none
  | .catchUp name | .forget name => some name

/-- The updates a label appends. -/
def Label.updates : Label Name Update → List Update
  | .publish updates => updates
  | .catchUp _ | .forget _ => []

def published (labels : List (Label Name Update)) : List Update := labels.flatMap Label.updates

/-- Whether a reader looks at the log, or forgets it. -/
def Turns (name : Name) (labels : List (Label Name Update)) : Prop :=
  ∃ label ∈ labels, label.reader = some name

/-- What a reader holds: the value of the prefix it has seen, or what it starts with. -/
def view (value : List Update → View) (blank : Name → View) (self : Readers Name Update)
    (name : Name) : View :=
  match self.seen name with
  | some length => value (self.log.take length)
  | none => blank name

/-- Nobody has seen more than there is. -/
def Sound (self : Readers Name Update) : Prop :=
  ∀ name length, self.seen name = some length → length ≤ self.log.length

/-- What a reader has seen, if anything, reaches as far as a bound. -/
def SeenTo (bound : Nat) (self : Readers Name Update) (name : Name) : Prop :=
  ∀ length, self.seen name = some length → bound ≤ length

section Views

variable {value : List Update → View} {blank : Name → View} {self : Readers Name Update}
  {name : Name}

theorem view_of_seen {length : Nat} (seen : self.seen name = some length) :
    self.view value blank name = value (self.log.take length) := by
  rw [view, seen]

theorem view_of_unseen (unseen : self.seen name = none) :
    self.view value blank name = blank name := by
  rw [view, unseen]

/-- What holds of the values from a bound on, and to begin with, holds of a reader which
has seen that far. -/
theorem holds_of_seenTo {bound : Nat} {Holds : View → Prop} (sound : self.Sound)
    (seenTo : self.SeenTo bound name) (blanks : Holds (blank name))
    (values : ∀ length, bound ≤ length → length ≤ self.log.length →
      Holds (value (self.log.take length))) : Holds (self.view value blank name) := by
  cases seen : self.seen name with
  | none => rwa [view_of_unseen seen]
  | some length =>
      rw [view_of_seen seen]
      exact values length (seenTo length seen) (sound name length seen)

end Views

variable [DecidableEq Name]

def step (self : Readers Name Update) : Label Name Update → Readers Name Update
  | .publish updates => { self with log := self.log ++ updates }
  | .catchUp name =>
      { self with seen := Function.update self.seen name (some self.log.length) }
  | .forget name => { self with seen := Function.update self.seen name none }

def run (self : Readers Name Update) (labels : List (Label Name Update)) :
    Readers Name Update :=
  labels.foldl step self

section Steps

variable {self : Readers Name Update} {label : Label Name Update} {name : Name} {bound : Nat}

theorem log_step : (self.step label).log = self.log ++ label.updates := by
  cases label <;> simp [step, Label.updates]

/-- A label leaves the other readers alone. -/
theorem seen_step_of_ne (other : label.reader ≠ some name) :
    (self.step label).seen name = self.seen name := by
  cases label with
  | publish updates => rfl
  | catchUp reader | forget reader =>
      apply Function.update_of_ne
      rintro rfl
      exact other rfl

theorem seen_catchUp : (self.step (.catchUp name)).seen name = some self.log.length :=
  Function.update_self ..

theorem seen_forget : (self.step (.forget name)).seen name = none :=
  Function.update_self ..

/-- A reader which turns to the log has seen all of it, or nothing. -/
theorem seen_step_of_reader (mine : label.reader = some name) {length : Nat}
    (seen : (self.step label).seen name = some length) : length = self.log.length := by
  cases label with
  | publish updates => cases mine
  | catchUp reader =>
      cases mine
      rw [seen_catchUp] at seen
      exact (Option.some.inj seen).symm
  | forget reader =>
      cases mine
      rw [seen_forget] at seen
      cases seen

theorem Sound.step (sound : self.Sound) : (self.step label).Sound := by
  intro name length seen
  rw [log_step, List.length_append]
  by_cases mine : label.reader = some name
  · have all := seen_step_of_reader mine seen
    omega
  · rw [seen_step_of_ne mine] at seen
    have before := sound name length seen
    omega

theorem seenTo_step_of_reader (mine : label.reader = some name)
    (within : bound ≤ self.log.length) : (self.step label).SeenTo bound name := by
  intro length seen
  rwa [seen_step_of_reader mine seen]

theorem SeenTo.step (seenTo : self.SeenTo bound name) (within : bound ≤ self.log.length) :
    (self.step label).SeenTo bound name := by
  by_cases mine : label.reader = some name
  · exact seenTo_step_of_reader mine within
  · intro length seen
    rw [seen_step_of_ne mine] at seen
    exact seenTo length seen

end Steps

section Runs

variable {value : List Update → View} {blank : Name → View} {self : Readers Name Update}
  {name : Name} {bound : Nat}

@[simp] theorem run_nil : self.run [] = self := rfl

@[simp] theorem run_cons (label : Label Name Update) (rest : List (Label Name Update)) :
    self.run (label :: rest) = (self.step label).run rest := rfl

@[simp] theorem run_append (first second : List (Label Name Update)) :
    self.run (first ++ second) = (self.run first).run second :=
  List.foldl_append

theorem log_run (labels : List (Label Name Update)) :
    (self.run labels).log = self.log ++ published labels := by
  induction labels generalizing self with
  | nil => simp [published]
  | cons label rest ih => simp [ih, log_step, published]

theorem Sound.run (sound : self.Sound) (labels : List (Label Name Update)) :
    (self.run labels).Sound := by
  induction labels generalizing self with
  | nil => exact sound
  | cons label rest ih => exact ih sound.step

theorem SeenTo.run (seenTo : self.SeenTo bound name) (within : bound ≤ self.log.length)
    (labels : List (Label Name Update)) : (self.run labels).SeenTo bound name := by
  induction labels generalizing self with
  | nil => exact seenTo
  | cons label rest ih =>
      apply ih (seenTo.step within)
      rw [log_step, List.length_append]
      omega

/-- A reader which has turned to the log has seen at least what was there before. -/
theorem seenTo_run_of_turns {labels : List (Label Name Update)} (turns : Turns name labels)
    (within : bound ≤ self.log.length) : (self.run labels).SeenTo bound name := by
  obtain ⟨label, mem, mine⟩ := turns
  obtain ⟨before, after, rfl⟩ := List.append_of_mem mem
  have here : bound ≤ (self.run before).log.length := by
    rw [log_run, List.length_append]
    omega
  have later : bound ≤ ((self.run before).step label).log.length := by
    rw [log_step, List.length_append]
    omega
  rw [run_append, run_cons]
  exact (seenTo_step_of_reader mine here).run later after

/-- What others do, and what is appended, leaves a reader with what it holds. -/
theorem view_step_of_ne (sound : self.Sound) {label : Label Name Update}
    (other : label.reader ≠ some name) :
    (self.step label).view value blank name = self.view value blank name := by
  cases seen : self.seen name with
  | none => rw [view_of_unseen seen, view_of_unseen ((seen_step_of_ne other).trans seen)]
  | some length =>
      rw [view_of_seen seen, view_of_seen ((seen_step_of_ne other).trans seen), log_step,
        List.take_append_of_le_length (sound name length seen)]

theorem view_run_of_not_turns (sound : self.Sound) {labels : List (Label Name Update)}
    (idle : ¬ Turns name labels) :
    (self.run labels).view value blank name = self.view value blank name := by
  induction labels generalizing self with
  | nil => rfl
  | cons label rest ih =>
      have other : label.reader ≠ some name := fun mine =>
        idle ⟨label, List.mem_cons_self, mine⟩
      have later : ¬ Turns name rest := fun ⟨turned, mem, mine⟩ =>
        idle ⟨turned, List.mem_cons_of_mem _ mem, mine⟩
      rw [run_cons, ih sound.step later, view_step_of_ne sound other]

/-- Turning to the log appends nothing. -/
theorem log_run_of_readers {labels : List (Label Name Update)}
    (readers : ∀ label ∈ labels, label.reader.isSome = true) :
    (self.run labels).log = self.log := by
  have nothing : published labels = [] := by
    rw [published, List.flatMap_eq_nil_iff]
    intro label mem
    have turned := readers label mem
    cases label with
    | publish updates => cases turned
    | catchUp name | forget name => rfl
  rw [log_run, nothing, List.append_nil]

/-- A reader which does not forget never goes back. -/
theorem seen_run_of_kept (sound : self.Sound) {length : Nat}
    (seen : self.seen name = some length) {labels : List (Label Name Update)}
    (kept : Label.forget name ∉ labels) :
    ∃ later, length ≤ later ∧ (self.run labels).seen name = some later := by
  induction labels generalizing self length with
  | nil => exact ⟨length, Nat.le_refl _, seen⟩
  | cons label rest ih =>
      have unforgotten : Label.forget name ∉ rest := fun mem =>
        kept (List.mem_cons_of_mem _ mem)
      by_cases mine : label.reader = some name
      · cases label with
        | publish updates => cases mine
        | catchUp reader =>
            cases mine
            obtain ⟨later, onward, final⟩ := ih sound.step seen_catchUp unforgotten
            exact ⟨later, Nat.le_trans (sound name length seen) onward, final⟩
        | forget reader =>
            cases mine
            exact absurd List.mem_cons_self kept
      · exact ih sound.step ((seen_step_of_ne mine).trans seen) unforgotten

end Runs

end Readers

end WardenDemo.Durable
