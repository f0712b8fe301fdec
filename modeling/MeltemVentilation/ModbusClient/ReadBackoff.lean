import MeltemVentilation.Const

/-!
# Growing pauses of refused reads

The class `_ReadBackoff` of `modbus_client.py`: after each failure a read is paused twice as
long as the last time, up to a maximum, and a success forgets the failures. The two instances
of the client differ in their settings only; a key is a register block of one unit.
-/

namespace MeltemVentilation

/-- The settings of one instance of `_ReadBackoff`. -/
structure BackoffSettings where
  startSeconds : ℕ
  maxSeconds : ℕ
  maxFailures : ℕ
deriving DecidableEq, Repr

/-- The defaults, used for the mode status map. -/
def optionalReadBackoff : BackoffSettings := ⟨30, 300, 5⟩

/-- The settings for the other register blocks. -/
def componentReadBackoff : BackoffSettings := ⟨10, 60, 4⟩

/-- The failures of each key, and until when its read is paused. -/
structure ReadBackoff (K : Type) where
  failures : K → Option ℕ := fun _ => none
  pausedUntil : K → Option Monotonic := fun _ => none

namespace ReadBackoff

variable {K : Type} [DecidableEq K]

/-- `is_active`, the answer: whether the read is still paused. -/
def isActive (backoff : ReadBackoff K) (now : Monotonic) (key : K) : Bool :=
  (backoff.pausedUntil key).any fun pausedUntil => now < pausedUntil

/-- `is_active`, the effect: a pause that is over is forgotten. -/
def expire (backoff : ReadBackoff K) (now : Monotonic) (key : K) : ReadBackoff K :=
  if backoff.isActive now key then backoff
  else { backoff with pausedUntil := Function.update backoff.pausedUntil key none }

/-- `mark_failure`: pause the read twice as long as last time, up to the maximum. -/
def markFailure (settings : BackoffSettings) (backoff : ReadBackoff K) (key : K)
    (now : Monotonic) : ReadBackoff K :=
  let failures := min ((backoff.failures key).getD 0 + 1) settings.maxFailures
  { failures := Function.update backoff.failures key (some failures)
    pausedUntil := Function.update backoff.pausedUntil key (some (now +
      seconds (min settings.maxSeconds (settings.startSeconds * 2 ^ (failures - 1))))) }

/-- `clear`. -/
def clear (backoff : ReadBackoff K) (key : K) : ReadBackoff K where
  failures := Function.update backoff.failures key none
  pausedUntil := Function.update backoff.pausedUntil key none

/-- `clear_slave`: every key of the unit that has failures is cleared. -/
def clearSlave {C : Type} (backoff : ReadBackoff (ℕ × C)) (slave : ℕ) : ReadBackoff (ℕ × C) where
  failures key := if key.1 = slave then none else backoff.failures key
  pausedUntil key :=
    if key.1 = slave ∧ (backoff.failures key).isSome then none else backoff.pausedUntil key

end ReadBackoff

end MeltemVentilation
