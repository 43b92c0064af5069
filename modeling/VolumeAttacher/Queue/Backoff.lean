import VolumeAttacher.Table
import VolumeAttacher.Time.DoublePrecision

/-!
# Growing delays

Between attempts that keep failing the delay doubles from a first one up to a longest one. Delays
are computed in double precision, which is exact below 104 days. A `KeyedBackoff` keeps the delays
of many keys apart and counts the failures of each.
-/

namespace VolumeAttacher

/-- How the delay between attempts grows. -/
structure RetryPolicy where
  /-- The first delay. -/
  first : Nat
  /-- The longest delay; the first one may still be longer. -/
  longest : Nat
deriving DecidableEq, Repr

namespace RetryPolicy

/-- How long to wait when it is the turn of a delay. -/
def wait (delay : Nat) : Nat :=
  Duration.ofDouble (Duration.inDouble delay)

/-- The delay that follows a given one: the longest one if the given one is at least half of it,
and else twice the given one. -/
def next (policy : RetryPolicy) (delay : Nat) : Nat :=
  let nanoseconds := Duration.inDouble delay
  if Duration.inDouble policy.longest ≤ 2 * nanoseconds then policy.longest
  else Duration.ofDouble (2 * nanoseconds)

end RetryPolicy

/-- A way to compute delays. -/
structure Growth where
  /-- How long to wait when it is the turn of a delay. -/
  wait : Nat → Nat
  /-- The delay that follows a given one. -/
  next : RetryPolicy → Nat → Nat

/-- Delays in double precision. -/
def Growth.inDouble : Growth where
  wait := RetryPolicy.wait
  next := RetryPolicy.next

/-- The failures of one key. -/
structure Retries where
  /-- The delay after the next failure. -/
  delay : Nat
  /-- The number of failures, up to the greatest 32-bit number. -/
  failures : Nat
deriving DecidableEq, Repr

/-- The greatest number of failures that is counted. -/
def Retries.most : Nat := 0xFFFFFFFF

/-- Growing delays for many keys. -/
structure KeyedBackoff where
  policy : RetryPolicy
  retries : Table Retries := []
deriving DecidableEq, Repr

namespace KeyedBackoff

/-- Counts a failure of a key and tells how long to wait before the next attempt. -/
def failBy (growth : Growth) (backoff : KeyedBackoff) (key : String) : Nat × KeyedBackoff :=
  let retries := (Table.find? backoff.retries key).getD ⟨backoff.policy.first, 0⟩
  let counted : Retries :=
    ⟨growth.next backoff.policy retries.delay, min (retries.failures + 1) Retries.most⟩
  (growth.wait retries.delay,
    { backoff with retries := Table.insert backoff.retries key counted })

def fail (backoff : KeyedBackoff) (key : String) : Nat × KeyedBackoff :=
  backoff.failBy .inDouble key

/-- Forgets the failures of a key. -/
def forget (backoff : KeyedBackoff) (key : String) : KeyedBackoff :=
  { backoff with retries := Table.erase backoff.retries key }

/-- The number of failures of a key since it was last forgotten. -/
def failures (backoff : KeyedBackoff) (key : String) : Nat :=
  ((Table.find? backoff.retries key).map Retries.failures).getD 0

end KeyedBackoff

end VolumeAttacher
