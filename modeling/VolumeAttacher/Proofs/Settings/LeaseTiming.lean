import Mathlib.Algebra.Order.Floor.Div
import VolumeAttacher.Simulation.Election

/-!
# The timing of a lease

Settings are as fine as nanoseconds, and a lease is timed in seconds. The duration of the lease and
the time that is spared for renewing it are both cut to whole seconds, each for itself. Whatever the
settings are, the lease lasts for longer than its last part, which is left for renewing it, so that
it is renewed before it runs out. If the settings are accepted, it is renewed no later than at the
end of the second in which the deadline for renewing it lies, and at most one whole second of the
deadline is not waited for.

So, until it is told to stop, a leader has a valid lease at every instant, unless another one takes
it.
-/

namespace VolumeAttacher

namespace Duration

variable {d n : Nat}

theorem second_pos : 0 < second := by decide

/-- The number of seconds, where one that is begun counts as a whole one. -/
def begunSeconds (d : Nat) : Nat := d ⌈/⌉ second

theorem le_wholeSeconds_iff : n ≤ wholeSeconds d ↔ ofSeconds n ≤ d :=
  Nat.le_div_iff_mul_le second_pos

theorem begunSeconds_le_iff : begunSeconds d ≤ n ↔ d ≤ ofSeconds n := by
  rw [begunSeconds, ceilDiv_le_iff_le_mul second_pos, ofSeconds, Nat.mul_comm]

theorem begunSeconds_pos_iff : 0 < begunSeconds d ↔ 0 < d := by
  have nothing : begunSeconds d ≤ 0 ↔ d ≤ ofSeconds 0 := begunSeconds_le_iff
  rw [ofSeconds, Nat.zero_mul] at nothing
  omega

/-- Each whole second of a duration is begun by a part that is taken from it, or is whole in what
the part leaves. -/
theorem wholeSeconds_le_add (d part : Nat) :
    wholeSeconds d ≤ wholeSeconds (d - part) + begunSeconds part := by
  have whole : ofSeconds (wholeSeconds d) ≤ d := le_wholeSeconds_iff.mp (Nat.le_refl _)
  have begun : part ≤ ofSeconds (begunSeconds part) := begunSeconds_le_iff.mp (Nat.le_refl _)
  rw [← Nat.sub_le_iff_le_add, le_wholeSeconds_iff]
  calc ofSeconds (wholeSeconds d - begunSeconds part)
      = ofSeconds (wholeSeconds d) - ofSeconds (begunSeconds part) := Nat.sub_mul ..
    _ ≤ d - part := tsub_le_tsub whole begun

theorem wholeSeconds_add_le {part : Nat} (within : part ≤ d) :
    wholeSeconds part + wholeSeconds (d - part) ≤ wholeSeconds d :=
  calc wholeSeconds part + wholeSeconds (d - part)
    _ ≤ wholeSeconds (part + (d - part)) := Nat.div_add_div_le_add_div
    _ = wholeSeconds d := by rw [Nat.add_sub_cancel' within]

end Duration

/-- A timing that does what the settings ask for, as well as whole seconds can. -/
structure LeaseTiming.Suits (timing : LeaseTiming) (settings : LeaderElectionSettings) : Prop where
  duration_eq : timing.duration = max 2 (Duration.wholeSeconds settings.leaseDuration)
  grace_pos : 1 ≤ timing.grace
  grace_le : timing.grace ≤ timing.duration - 1
  interval_pos : 1 ≤ timing.interval
  interval_le : timing.interval ≤ Duration.begunSeconds settings.renewDeadline
  /-- At most one whole second of the deadline is not waited for. -/
  le_interval : Duration.wholeSeconds settings.renewDeadline ≤ timing.interval + 1

namespace LeaderElectionSettings

/-- Settings for an election that is to be held are accepted just if their times are in order. -/
theorem fault?_eq_none_iff {settings : LeaderElectionSettings} (enabled : settings.enabled = true) :
    settings.fault? = none ↔
      0 < settings.retryPeriod ∧ settings.retryPeriod < settings.renewDeadline ∧
        settings.renewDeadline < settings.leaseDuration := by
  rw [fault?, enabled, Bool.not_true, if_neg Bool.false_ne_true]
  split_ifs with noPeriod lateRenewal lateRetry
  all_goals
    simp only [false_iff, true_iff]
    omega

variable (settings : LeaderElectionSettings)

theorem duration_leaseTiming :
    settings.leaseTiming.duration = max 2 (Duration.wholeSeconds settings.leaseDuration) := by
  rw [settings.leaseTiming_eq, Nat.max_comm]

theorem grace_pos : 1 ≤ settings.leaseTiming.grace := by
  simp only [settings.leaseTiming_eq]
  omega

theorem grace_lt_duration : settings.leaseTiming.grace < settings.leaseTiming.duration := by
  simp only [settings.leaseTiming_eq]
  omega

theorem interval_add_grace :
    settings.leaseTiming.interval + settings.leaseTiming.grace = settings.leaseTiming.duration :=
  Nat.sub_add_cancel (Nat.le_of_lt settings.grace_lt_duration)

theorem interval_pos : 1 ≤ settings.leaseTiming.interval :=
  Nat.sub_pos_of_lt settings.grace_lt_duration

/-- Just a deadline of zero is missed, as the lease is never renewed at once. Each cut drops a
fraction of its own; the end of the deadline's second makes up for both. -/
theorem interval_le_iff :
    settings.leaseTiming.interval ≤ Duration.begunSeconds settings.renewDeadline ↔
      0 < settings.renewDeadline := by
  have positive := settings.interval_pos
  rw [← Duration.begunSeconds_pos_iff]
  constructor
  · omega
  · intro begun
    have cut := Duration.wholeSeconds_le_add settings.leaseDuration settings.renewDeadline
    simp only [LeaseTiming.interval, settings.leaseTiming_eq]
    omega

theorem le_interval (within : settings.renewDeadline ≤ settings.leaseDuration) :
    Duration.wholeSeconds settings.renewDeadline ≤ settings.leaseTiming.interval + 1 := by
  have cut := Duration.wholeSeconds_add_le within
  simp only [LeaseTiming.interval, settings.leaseTiming_eq]
  omega

/-- The timing of a lease comes about for all settings, and its last part is never longer than the
lease. It suits settings that are accepted for an election that is to be held. -/
theorem leaseTiming_suits :
    settings.leaseTiming? = some settings.leaseTiming ∧
      Seconds.minus? settings.leaseTiming.duration settings.leaseTiming.grace =
        some settings.leaseTiming.interval ∧
      (settings.enabled = true → settings.fault? = none →
        settings.leaseTiming.Suits settings) := by
  refine ⟨?_, ?_, ?_⟩
  · rw [settings.leaseTiming?_eq_some, settings.leaseTiming_eq]
  · exact Seconds.minus?_of_le (Nat.le_of_lt settings.grace_lt_duration)
  · intro enabled accepted
    rcases (fault?_eq_none_iff enabled).mp accepted with ⟨positive, retried, within⟩
    have deadline : 0 < settings.renewDeadline := Nat.lt_trans positive retried
    exact {
      duration_eq := settings.duration_leaseTiming
      grace_pos := settings.grace_pos
      grace_le := Nat.le_sub_one_of_lt settings.grace_lt_duration
      interval_pos := settings.interval_pos
      interval_le := settings.interval_le_iff.mpr deadline
      le_interval := settings.le_interval (Nat.le_of_lt within) }

/-- Settings with the shortest deadline that is accepted. What it spares of the lease has as many
whole seconds as the lease. -/
def shortestDeadline : LeaderElectionSettings where
  enabled := true
  leaseDuration := Duration.ofSeconds 11 - 1
  renewDeadline := 2
  retryPeriod := 1

theorem leaseTiming_suits_of_shortest_deadline :
    shortestDeadline.enabled = true ∧ shortestDeadline.fault? = none ∧
      shortestDeadline.leaseTiming = ⟨10, 9⟩ ∧
      shortestDeadline.leaseTiming.Suits shortestDeadline := by
  have accepted : shortestDeadline.fault? = none := by decide
  exact ⟨rfl, accepted, by decide, (leaseTiming_suits shortestDeadline).2.2 rfl accepted⟩

end LeaderElectionSettings

namespace Simulation.Election

variable {election : Election} {start now : Nat}

theorem interval_pos (election : Election) : 0 < election.interval :=
  Nat.mul_pos election.settings.interval_pos Duration.second_pos

theorem interval_add_grace (election : Election) :
    election.interval + Duration.ofSeconds election.settings.leaseTiming.grace =
      Duration.ofSeconds election.settings.leaseTiming.duration := by
  rw [interval, Duration.ofSeconds, Duration.ofSeconds, Duration.ofSeconds, ← Nat.add_mul,
    election.settings.interval_add_grace]

/-- Until the leader is told to stop, its last renewal was due less than an interval ago. -/
theorem exists_renewal (acquired : election.acquired? = some start) (since : start ≤ now)
    (running : now ≤ election.stop) :
    ∃ number renewal, election.renewal? number = some renewal ∧
      renewal ≤ now ∧ now < renewal + election.interval := by
  let number := (now - start) / election.interval
  have past : number * election.interval ≤ now - start := Nat.div_mul_le_self ..
  have recent : now - start < number * election.interval + election.interval :=
    Nat.lt_div_mul_add election.interval_pos
  refine ⟨number, start + number * election.interval, ?_, by omega, by omega⟩
  rw [renewal?, acquired, Option.map_some, Option.filter_some, decide_eq_true (by omega),
    if_pos rfl]

/-- Until the leader is told to stop, a lease that is renewed whenever that is due stays valid for
longer than the part that is left for renewing it. -/
theorem lease_isValid (acquired : election.acquired? = some start) (since : start ≤ now)
    (running : now ≤ election.stop) :
    ∃ number renewal, election.renewal? number = some renewal ∧ renewal ≤ now ∧
      now + Duration.ofSeconds election.settings.leaseTiming.grace <
        renewal + Duration.ofSeconds election.settings.leaseTiming.duration := by
  rcases exists_renewal acquired since running with ⟨number, renewal, renewed, past, recent⟩
  refine ⟨number, renewal, renewed, past, ?_⟩
  rw [← election.interval_add_grace]
  omega

end Simulation.Election

end VolumeAttacher
