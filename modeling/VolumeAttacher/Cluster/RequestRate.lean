import VolumeAttacher.Number.Single
import VolumeAttacher.Time.Duration

/-!
# The rate of requests to the cluster

A window opens with a request and lasts for some time, and only so many requests may be made in it.
The last of them blocks the next request until the window ends. The length of a window is computed
in double precision and rounded to whole nanoseconds.
-/

namespace VolumeAttacher

/-- How many requests may be made within a window. -/
structure RequestRate where
  requests : Nat
  window : Nat
deriving DecidableEq, Repr

namespace RequestRate

/-- A number of seconds as a duration, if it is short enough. -/
def ofDoubleSeconds? (seconds : Dyadic) : Option Nat :=
  let (num, den) := seconds.quotient
  if num < 0x10000000000000000 * den then some (roundQuotient (num * Duration.second) den) else none

/-- The time that a number of requests takes at a rate. -/
def windowOf (requests : Nat) : Single → Nat
  | .infinite _ => 0
  | .finite false rate =>
      let (num, den) := rate.quotient
      if num = 0 then Duration.longest
      else
        ((BinaryFormat.double.round? (requests * den) num).bind ofDoubleSeconds?).getD
          Duration.longest
  | .nan | .finite true _ => Duration.longest

/-- The rate of so many requests in a second on average, and so many at a time. -/
def ofBurst (rate : Single) (burst : Nat) : RequestRate :=
  let requests := max burst 1
  ⟨requests, max (windowOf requests rate) 1⟩

/-- The state of a limit on requests. -/
structure Limit where
  ends : Nat := 0
  left : Nat

/-- When a request can be made that is asked for at a time, and the limit afterwards. -/
def Limit.next (rate : RequestRate) (limit : Limit) (now : Nat) : Nat × Limit :=
  let start := if limit.left = 0 then max now (Duration.roundUp limit.ends) else now
  if limit.left = 0 ∨ limit.ends ≤ start then
    (start, ⟨start + rate.window, rate.requests - 1⟩)
  else (start, { limit with left := limit.left - 1 })

/-- When each of a number of requests is made, if each follows at once upon the one before. -/
def starts (rate : RequestRate) (calls : Nat) : List Nat :=
  go calls 0 ⟨0, rate.requests⟩
where
  go : Nat → Nat → Limit → List Nat
    | 0, _, _ => []
    | calls + 1, now, limit =>
        let (start, limit) := Limit.next rate limit now
        start :: go calls start limit

end RequestRate

end VolumeAttacher
