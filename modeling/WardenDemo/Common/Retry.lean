import WardenDemo.Durable.Retry

/-!
# Retry policies

The host of the retry storm is retried once per second and in effect without end;
everything else has ordinary defaults.
-/

namespace WardenDemo

open Durable

/-- One retry per second, flat, effectively non-exhausting. -/
def stormRetry : RetryPolicy where
  initialInterval := 1
  backoffCoefficient := 1
  maximumInterval := 1
  maximumAttempts := 1000

/-- The policy of healthy activities. -/
def defaultRetry : RetryPolicy where
  initialInterval := 1
  backoffCoefficient := 2
  maximumInterval := 30
  maximumAttempts := 5

/-- A storm waits a second for each failure. -/
theorem waitedBefore_stormRetry (failures : Nat) : stormRetry.waitedBefore failures = failures := by
  rw [waitedBefore_of_flat rfl (Std.le_refl _)]
  exact Rat.mul_one _

end WardenDemo
