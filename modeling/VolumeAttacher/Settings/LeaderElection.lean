import VolumeAttacher.Failure

/-!
# Settings for the election of a leader

Of several attachers for a driver only the one that holds the lease works. The holder renews its
lease before it runs out, and gives it up when it fails to.
-/

namespace VolumeAttacher

/-- The settings for the election of a leader. -/
structure LeaderElectionSettings where
  enabled : Bool := false
  space : Option String := none
  /-- How long a lease is valid without renewal. -/
  leaseDuration : Nat := Duration.ofSeconds 15
  /-- How long after each renewal the lease is renewed again. -/
  renewDeadline : Nat := Duration.ofSeconds 10
  /-- How long to wait before setting up the lease is tried again. -/
  retryPeriod : Nat := Duration.ofSeconds 5
deriving DecidableEq, Repr

/-- What the holder of a lease keeps to, in seconds. -/
structure LeaseTiming where
  /-- How long the lease is valid without renewal. -/
  duration : Nat
  /-- How long before its end the lease is renewed. -/
  grace : Nat
deriving DecidableEq, Repr

/-- How long after a renewal the lease is renewed again. -/
def LeaseTiming.interval (timing : LeaseTiming) : Nat :=
  timing.duration - timing.grace

namespace Seconds

/-- What is left of a number of seconds, unless more is taken away. -/
def minus? (number away : Nat) : Option Nat :=
  if away ≤ number then some (number - away) else none

/-- The number of seconds nearest to the given one within bounds, unless these are out of order. -/
def clamp? (number least greatest : Nat) : Option Nat :=
  if least ≤ greatest then some (min (max number least) greatest) else none

theorem minus?_of_le {number away : Nat} (enough : away ≤ number) :
    minus? number away = some (number - away) :=
  if_pos enough

theorem clamp?_of_le (number : Nat) {least greatest : Nat} (ordered : least ≤ greatest) :
    clamp? number least greatest = some (min (max number least) greatest) :=
  if_pos ordered

end Seconds

namespace LeaderElectionSettings

/-- What is wrong with the settings first, if anything. Nothing is if no leader is elected. -/
def fault? (settings : LeaderElectionSettings) : Option SettingsFault :=
  if !settings.enabled then none
  else if settings.retryPeriod = 0 then some .noRetryPeriod
  else if settings.leaseDuration ≤ settings.renewDeadline then some .lateRenewal
  else if settings.renewDeadline ≤ settings.retryPeriod then some .lateRetry
  else none

/-- The name space of the lease: the one that is set, else the attacher's own, else `default`. An
empty one counts as none. -/
def leaseSpace (settings : LeaderElectionSettings) (own : Option String) : String :=
  ((settings.space <|> own).filter fun space => !space.isEmpty).getD "default"

/-- The timing of the lease, if it comes about. The lease is valid for at least two seconds, and its
last part, of at least one second, is left for renewing it. A deadline after the end of the lease
spares no time at all. -/
def leaseTiming? (settings : LeaderElectionSettings) : Option LeaseTiming := do
  let duration := max (Duration.wholeSeconds settings.leaseDuration) 2
  let spare := Duration.wholeSeconds (settings.leaseDuration - settings.renewDeadline)
  let grace ← Seconds.clamp? spare 1 (← Seconds.minus? duration 1)
  return { duration, grace }

theorem leaseTiming?_eq_some (settings : LeaderElectionSettings) :
    let duration := max (Duration.wholeSeconds settings.leaseDuration) 2
    let spare := Duration.wholeSeconds (settings.leaseDuration - settings.renewDeadline)
    settings.leaseTiming? = some ⟨duration, min (max spare 1) (duration - 1)⟩ := by
  intro duration spare
  have least : 2 ≤ duration := Nat.le_max_right _ 2
  have enough : 1 ≤ duration := Nat.le_of_succ_le least
  have ordered : 1 ≤ duration - 1 := Nat.le_sub_of_add_le least
  rw [leaseTiming?, Seconds.minus?_of_le enough, Option.bind_eq_bind, Option.bind_some,
    Seconds.clamp?_of_le spare ordered]
  rfl

/-- The timing of the lease. It comes about for all settings, accepted or not. -/
def leaseTiming (settings : LeaderElectionSettings) : LeaseTiming :=
  settings.leaseTiming?.get (by simp [settings.leaseTiming?_eq_some])

theorem leaseTiming_eq (settings : LeaderElectionSettings) :
    let duration := max (Duration.wholeSeconds settings.leaseDuration) 2
    let spare := Duration.wholeSeconds (settings.leaseDuration - settings.renewDeadline)
    settings.leaseTiming = ⟨duration, min (max spare 1) (duration - 1)⟩ := by
  simp [leaseTiming, settings.leaseTiming?_eq_some]

end LeaderElectionSettings

end VolumeAttacher
