import Mathlib.Algebra.Order.Ring.Unbundled.Rat

/-!
# Retry policies

An activity is attempted until it completes, fails in a way which is not retried, or
has had all its attempts. What attempt does what is a function of its number.
-/

namespace WardenDemo.Durable

variable {ε α : Type}

/-- A retry policy with a bounded number of attempts; intervals are in seconds. -/
structure RetryPolicy where
  initialInterval : Rat
  backoffCoefficient : Rat
  maximumInterval : Rat
  maximumAttempts : Nat
deriving DecidableEq, Repr

/-- What an activity comes to: its result, how often it was attempted, and how long was
waited between the attempts. -/
structure Retried (ε α : Type) where
  result : Except ε α
  attempts : Nat
  waited : Rat

namespace RetryPolicy

variable (policy : RetryPolicy)

/-- The time waited after a number of failures, before the next attempt. -/
def interval (failures : Nat) : Rat :=
  min (policy.initialInterval * policy.backoffCoefficient ^ failures) policy.maximumInterval

/-- The time waited before an attempt in all. -/
def waitedBefore : Nat → Rat
  | 0 => 0
  | failures + 1 => waitedBefore failures + policy.interval failures

/-- Make the attempt of a number, with some more attempts left after it. -/
def attemptFrom (retryable : ε → Bool) (attempt : Nat → Except ε α) :
    (left number : Nat) → Retried ε α
  | 0, number => ⟨attempt number, number + 1, policy.waitedBefore number⟩
  | left + 1, number =>
      match attempt number with
      | .error raised =>
          if retryable raised then attemptFrom retryable attempt left (number + 1)
          else ⟨.error raised, number + 1, policy.waitedBefore number⟩
      | .ok value => ⟨.ok value, number + 1, policy.waitedBefore number⟩

/-- Attempt an activity under the policy. -/
def run (retryable : ε → Bool) (attempt : Nat → Except ε α) : Retried ε α :=
  policy.attemptFrom retryable attempt (policy.maximumAttempts - 1) 0

end RetryPolicy

/-- An attempt which fails and is retried. -/
def Retries (retryable : ε → Bool) (result : Except ε α) : Prop :=
  ∃ raised, result = .error raised ∧ retryable raised = true

theorem not_isOk_of_retries {retryable : ε → Bool} {result : Except ε α}
    (retries : Retries retryable result) : ¬ result.isOk = true := by
  obtain ⟨raised, rfl, _⟩ := retries
  exact Bool.false_ne_true

section Attempts

variable {policy : RetryPolicy} {retryable : ε → Bool} {attempt : Nat → Except ε α}

theorem attemptFrom_of_retries {left number : Nat} (retries : Retries retryable (attempt number)) :
    policy.attemptFrom retryable attempt (left + 1) number =
      policy.attemptFrom retryable attempt left (number + 1) := by
  obtain ⟨raised, failed, again⟩ := retries
  simp [RetryPolicy.attemptFrom, failed, again]

theorem attemptFrom_of_settled {left number : Nat}
    (settled : left = 0 ∨ ¬ Retries retryable (attempt number)) :
    policy.attemptFrom retryable attempt left number =
      ⟨attempt number, number + 1, policy.waitedBefore number⟩ := by
  cases left with
  | zero => rfl
  | succ left =>
      rw [RetryPolicy.attemptFrom]
      cases result : attempt number with
      | ok value => rfl
      | error raised =>
          have final : retryable raised ≠ true := fun again =>
            settled.elim (Nat.succ_ne_zero left) fun none => none ⟨raised, result, again⟩
          simp [final]

/-- An activity comes to what its first attempt does which is not retried, or its last. -/
theorem attemptFrom_eq {left number last : Nat} (here : number ≤ last)
    (within : last ≤ number + left)
    (earlier : ∀ before, number ≤ before → before < last → Retries retryable (attempt before))
    (settled : last = number + left ∨ ¬ Retries retryable (attempt last)) :
    policy.attemptFrom retryable attempt left number =
      ⟨attempt last, last + 1, policy.waitedBefore last⟩ := by
  induction left generalizing number with
  | zero =>
      obtain rfl : last = number := by omega
      exact attemptFrom_of_settled (Or.inl rfl)
  | succ left ih =>
      rcases Nat.eq_or_lt_of_le here with rfl | ahead
      · exact attemptFrom_of_settled (Or.inr (settled.resolve_left (by omega)))
      · rw [attemptFrom_of_retries (earlier number (Nat.le_refl _) ahead)]
        apply ih (by omega) (by omega)
        · exact fun before after below => earlier before (by omega) below
        · exact settled.imp_left (by omega)

theorem run_eq {last : Nat} (within : last < policy.maximumAttempts)
    (earlier : ∀ before < last, Retries retryable (attempt before))
    (settled : last + 1 = policy.maximumAttempts ∨ ¬ Retries retryable (attempt last)) :
    policy.run retryable attempt = ⟨attempt last, last + 1, policy.waitedBefore last⟩ := by
  apply attemptFrom_eq (Nat.zero_le _)
  · omega
  · exact fun before _ below => earlier before below
  · exact settled.imp_left (by omega)

/-- Some attempt within the policy is the first one which is not retried, or the last. -/
theorem exists_deciding (some : 0 < policy.maximumAttempts) :
    ∃ last < policy.maximumAttempts, (∀ before < last, Retries retryable (attempt before)) ∧
      (last + 1 = policy.maximumAttempts ∨ ¬ Retries retryable (attempt last)) := by
  have upto : ∀ bound < policy.maximumAttempts,
      (∃ last ≤ bound, (∀ before < last, Retries retryable (attempt before)) ∧
        ¬ Retries retryable (attempt last)) ∨
      ∀ before ≤ bound, Retries retryable (attempt before) := by
    intro bound
    induction bound with
    | zero =>
        intro _
        by_cases retries : Retries retryable (attempt 0)
        · refine Or.inr fun before below => ?_
          rwa [Nat.le_zero.mp below]
        · exact Or.inl ⟨0, Nat.le_refl _, by omega, retries⟩
    | succ bound ih =>
        intro below
        rcases ih (by omega) with ⟨last, within, found⟩ | all
        · exact Or.inl ⟨last, by omega, found⟩
        · by_cases retries : Retries retryable (attempt (bound + 1))
          · refine Or.inr fun before upper => ?_
            rcases Nat.eq_or_lt_of_le upper with rfl | lower
            · exact retries
            · exact all before (by omega)
          · exact Or.inl ⟨bound + 1, Nat.le_refl _, fun before lower => all before (by omega),
              retries⟩
  rcases upto (policy.maximumAttempts - 1) (by omega) with ⟨last, within, earlier, final⟩ | all
  · exact ⟨last, by omega, earlier, Or.inr final⟩
  · exact ⟨policy.maximumAttempts - 1, by omega, fun before below => all before (by omega),
      Or.inl (by omega)⟩

/-- An activity completes exactly if one of its attempts does, after failures which are
all retried. -/
theorem run_isOk_iff (some : 0 < policy.maximumAttempts) :
    (policy.run retryable attempt).result.isOk = true ↔
      ∃ number < policy.maximumAttempts, (attempt number).isOk = true ∧
        ∀ before < number, Retries retryable (attempt before) := by
  constructor
  · intro completed
    have decided : ∃ last < policy.maximumAttempts,
        (∀ before < last, Retries retryable (attempt before)) ∧
          (last + 1 = policy.maximumAttempts ∨ ¬ Retries retryable (attempt last)) :=
      exists_deciding some
    obtain ⟨last, within, earlier, settled⟩ := decided
    rw [run_eq within earlier settled] at completed
    exact ⟨last, within, completed, earlier⟩
  · rintro ⟨number, within, completed, earlier⟩
    have final : ¬ Retries retryable (attempt number) := fun retries =>
      not_isOk_of_retries retries completed
    rw [run_eq within earlier (Or.inr final)]
    exact completed

/-- Where every failure is retried, it takes one attempt within the policy. -/
theorem run_isOk_iff_of_retries (some : 0 < policy.maximumAttempts)
    (retried : ∀ number, (attempt number).isOk = true ∨ Retries retryable (attempt number)) :
    (policy.run retryable attempt).result.isOk = true ↔
      ∃ number < policy.maximumAttempts, (attempt number).isOk = true := by
  rw [run_isOk_iff some]
  constructor
  · rintro ⟨number, within, completed, _⟩
    exact ⟨number, within, completed⟩
  · rintro ⟨number, within, completed⟩
    have decided : ∃ last < policy.maximumAttempts,
        (∀ before < last, Retries retryable (attempt before)) ∧
          (last + 1 = policy.maximumAttempts ∨ ¬ Retries retryable (attempt last)) :=
      exists_deciding some
    obtain ⟨last, below, earlier, settled⟩ := decided
    refine ⟨last, below, ?_, earlier⟩
    rcases Nat.lt_trichotomy number last with before | rfl | after
    · exact absurd completed (not_isOk_of_retries (earlier number before))
    · exact completed
    · exact (retried last).resolve_right (settled.resolve_left (by omega))

/-- An activity which is retried to the end has had all its attempts. -/
theorem run_of_exhausted (some : 0 < policy.maximumAttempts)
    (all : ∀ number < policy.maximumAttempts, Retries retryable (attempt number)) :
    policy.run retryable attempt = ⟨attempt (policy.maximumAttempts - 1),
      policy.maximumAttempts, policy.waitedBefore (policy.maximumAttempts - 1)⟩ := by
  have last : policy.maximumAttempts - 1 + 1 = policy.maximumAttempts := by omega
  rw [run_eq (by omega) (fun before below => all before (by omega)) (Or.inl last), last]

/-- Without backoff, the time waited is that of the failures. -/
theorem waitedBefore_of_flat (flat : policy.backoffCoefficient = 1)
    (within : policy.initialInterval ≤ policy.maximumInterval) (failures : Nat) :
    policy.waitedBefore failures = failures * policy.initialInterval := by
  induction failures with
  | zero => simp [RetryPolicy.waitedBefore]
  | succ failures ih =>
      rw [RetryPolicy.waitedBefore, ih, RetryPolicy.interval, flat, one_pow, mul_one,
        min_eq_left within]
      push_cast
      rw [Rat.add_mul, Rat.one_mul]

end Attempts

end WardenDemo.Durable
