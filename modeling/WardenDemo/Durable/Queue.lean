import Mathlib.Data.List.Basic

/-!
# Queue accounting

Two ways a queue can account for what was put into it, over lists of what was
produced, what was consumed, and what is still queued. `Accounts` is exact:
nothing is lost, repeated or reordered. `Feeds` allows losses only.
-/

namespace WardenDemo.Durable

variable {α : Type}

/-- Everything produced was consumed or is queued, in the order produced. -/
def Accounts (produced consumed queue : List α) : Prop :=
  produced = consumed ++ queue

/-- What was consumed, and then what is queued, was produced in that order:
nothing is repeated or reordered, but some of it may be gone. -/
def Feeds (produced consumed queue : List α) : Prop :=
  (consumed ++ queue).Sublist produced

namespace Accounts

variable {produced consumed queue : List α}

theorem push (holds : Accounts produced consumed queue) (item : α) :
    Accounts (produced ++ [item]) consumed (queue ++ [item]) := by
  unfold Accounts at holds ⊢
  rw [holds, List.append_assoc]

theorem pop {item : α} (holds : Accounts produced consumed (item :: queue)) :
    Accounts produced (consumed ++ [item]) queue := by
  unfold Accounts at holds ⊢
  simpa using holds

theorem feeds (holds : Accounts produced consumed queue) : Feeds produced consumed queue := by
  unfold Accounts at holds
  rw [holds]
  exact List.Sublist.refl _

/-- A queue that accounts for a subsequence feeds from the whole. -/
theorem feeds_of_sublist {all : List α} (holds : Accounts produced consumed queue)
    (within : produced.Sublist all) : Feeds all consumed queue :=
  holds.feeds.trans within

/-- What is at a place of the line has been consumed, or it is still queued behind those
before it which have not. -/
theorem consumed_or_queued (holds : Accounts produced consumed queue) {prior rest : List α}
    {item : α} (line : produced = prior ++ item :: rest) :
    consumed[prior.length]? = some item ∨
      ∃ before, consumed.length + before.length = prior.length ∧ queue = before ++ item :: rest := by
  unfold Accounts at holds
  rw [line] at holds
  rcases List.append_eq_append_iff.mp holds with ⟨more, rfl, remains⟩ | ⟨before, rfl, queued⟩
  · cases more with
    | nil => exact Or.inr ⟨[], by simp, by simpa using remains.symm⟩
    | cons head others =>
        obtain ⟨rfl, _⟩ := List.cons.inj remains
        exact Or.inl (by simp)
  · exact Or.inr ⟨before, by simp, queued⟩

end Accounts

namespace Feeds

variable {produced consumed queue : List α}

theorem push (holds : Feeds produced consumed queue) (item : α) :
    Feeds (produced ++ [item]) consumed (queue ++ [item]) := by
  unfold Feeds at holds ⊢
  rw [← List.append_assoc]
  exact holds.append (List.Sublist.refl [item])

theorem produce (holds : Feeds produced consumed queue) (item : α) :
    Feeds (produced ++ [item]) consumed queue :=
  holds.trans (List.sublist_append_left produced [item])

theorem pop {item : α} (holds : Feeds produced consumed (item :: queue)) :
    Feeds produced (consumed ++ [item]) queue := by
  unfold Feeds at holds ⊢
  simpa using holds

theorem drop {kept : List α} (holds : Feeds produced consumed queue)
    (within : kept.Sublist queue) : Feeds produced consumed kept :=
  ((List.Sublist.refl consumed).append within).trans holds

theorem consumed_sublist (holds : Feeds produced consumed queue) :
    consumed.Sublist produced :=
  (List.sublist_append_left consumed queue).trans holds

end Feeds

end WardenDemo.Durable
