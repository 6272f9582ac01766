import Mathlib.Data.List.Sort

/-!
# Ranking by a key

A stable sort by descending key, and what the first few of its result are: the
items no other one is ahead of, where of two items with one key that which came
earlier is ahead.
-/

namespace WardenDemo.Ranking

variable {α κ : Type} [LinearOrder κ]

/-- Greater keys first, and items of one key in the order they come in. -/
def sortedDescending (key : α → κ) (items : List α) : List α :=
  items.insertionSort fun first second => key second ≤ key first

/-- The order of such a ranking, over items which come in the order `earlier`. -/
def Ahead (key : α → κ) (earlier : α → α → Prop) (first second : α) : Prop :=
  key second < key first ∨ (key first = key second ∧ earlier first second)

/-- The best `size` of the candidates, in order. -/
structure Podium (ahead : α → α → Prop) (candidates : List α) (size : Nat)
    (winners : List α) : Prop where
  length : winners.length = min size candidates.length
  distinct : winners.Nodup
  within : ∀ winner ∈ winners, winner ∈ candidates
  ranked : winners.Pairwise ahead
  best : ∀ winner ∈ winners, ∀ other ∈ candidates, other ∉ winners → ahead winner other

section Sorting

variable {key : α → κ} {earlier : α → α → Prop}

end Sorting

namespace Podium

variable {ahead ahead' : α → α → Prop} {candidates winners : List α} {size : Nat}

/-- A podium only depends on how the candidates are ranked among themselves. -/
theorem imp (podium : Podium ahead candidates size winners)
    (keeps : ∀ first ∈ candidates, ∀ second ∈ candidates,
      ahead first second → ahead' first second) :
    Podium ahead' candidates size winners where
  length := podium.length
  distinct := podium.distinct
  within := podium.within
  ranked := podium.ranked.imp_of_mem fun first second holds =>
    keeps _ (podium.within _ first) _ (podium.within _ second) holds
  best winner mem other candidate loses :=
    keeps _ (podium.within _ mem) _ candidate (podium.best winner mem other candidate loses)

variable {winners' : List α}

/-- Of two podiums none has a winner which the other one lacks. -/
theorem subset (podium : Podium ahead candidates size winners)
    (podium' : Podium ahead candidates size winners')
    (asymm : ∀ first second, ahead first second → ¬ ahead second first) :
    winners ⊆ winners' := by
  classical
  intro winner mem
  by_contra missing
  -- With the same number of winners, one of the others is missing here.
  have notWithin : ¬ winners' ⊆ winners := by
    intro within
    have shorter : winners.length ≤ winners'.length :=
      Nat.le_of_eq (podium.length.trans podium'.length.symm)
    have same := (List.subperm_of_subset podium'.distinct within).perm_of_length_le shorter
    exact missing (same.mem_iff.mpr mem)
  obtain ⟨other, mem', missing'⟩ : ∃ other ∈ winners', other ∉ winners := by
    simpa [List.subset_def] using notWithin
  have loses := podium.best winner mem other (podium'.within other mem') missing'
  have wins := podium'.best other mem' winner (podium.within winner mem) missing
  exact asymm winner other loses wins

end Podium

/-- A ranking by key is strict if no item is earlier than itself. -/
theorem Ahead.asymm {key : α → κ} {earlier : α → α → Prop}
    (strict : ∀ first second, earlier first second → ¬ earlier second first)
    (first second : α) (ahead : Ahead key earlier first second) :
    ¬ Ahead key earlier second first := by
  rintro (less | ⟨same, before⟩)
  · rcases ahead with less' | ⟨same, _⟩
    · exact lt_asymm less less'
    · exact absurd same.symm less.ne'
  · rcases ahead with less | ⟨_, before'⟩
    · exact absurd same less.ne
    · exact strict first second before' before

end WardenDemo.Ranking
