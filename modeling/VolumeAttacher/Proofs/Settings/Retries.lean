import VolumeAttacher.Proofs.Queue.Doubling
import VolumeAttacher.Proofs.Queue.Timed
import VolumeAttacher.Settings.Attaching

/-!
# Settings and the delays of retries

The queues of a controller take the bounds of their delays from its settings. If the first delay is
not zero, the delays of a key that keeps failing grow until they are the longest one, and no retry
comes about at once. Settings with a first delay of zero are accepted as well; zero doubled is zero,
and a key that is added after no time is ready again at once.
-/

namespace VolumeAttacher

namespace RetryPolicy

variable {policy : RetryPolicy}

theorem doubled_pos (positive : 0 < policy.first) (ordered : policy.first ≤ policy.longest)
    (failures : Nat) : 0 < policy.doubled failures := by
  have first := doubled_mono ordered (Nat.zero_le failures)
  rw [doubled_zero] at first
  omega

/-- Delays grow until they are the longest one, which they then stay. -/
theorem doubled_lt_or_eq (positive : 0 < policy.first) (ordered : policy.first ≤ policy.longest)
    (failures : Nat) :
    policy.doubled failures < policy.doubled (failures + 1) ∨
      policy.doubled failures = policy.longest ∧
        policy.doubled (failures + 1) = policy.longest := by
  have grown : 0 < policy.first * 2 ^ failures := Nat.mul_pos positive (Nat.two_pow_pos failures)
  have twice : policy.first * 2 ^ (failures + 1) = 2 * (policy.first * 2 ^ failures) := by
    rw [Nat.pow_succ', Nat.mul_left_comm]
  rw [doubled_eq_min ordered, doubled_eq_min ordered, twice]
  omega

theorem doubled_eq_longest (positive : 0 < policy.first) (ordered : policy.first ≤ policy.longest)
    {failures : Nat} (enough : policy.longest ≤ failures) :
    policy.doubled failures = policy.longest := by
  have power : failures < 2 ^ failures := Nat.lt_two_pow_self
  have grown : 2 ^ failures ≤ policy.first * 2 ^ failures := Nat.le_mul_of_pos_left _ positive
  rw [doubled_eq_min ordered]
  omega

end RetryPolicy

namespace WorkQueue

/-- A delayed add that takes time leaves the keys as they are, and its timer fires later. -/
theorem addAfter_waits (queue : WorkQueue) (now : Nat) (key : String) {delay : Nat}
    (later : delay ≠ 0) :
    (queue.addAfter now key delay).2.ready = queue.ready ∧
      (queue.addAfter now key delay).2.dirty = queue.dirty ∧
      ∀ due, (queue.addAfter now key delay).1 = some due → now < due := by
  cases isOpen : queue.closed with
  | true =>
      rw [addAfter_of_closed isOpen]
      exact ⟨rfl, rfl, nofun⟩
  | false =>
      rcases addAfter_cases isOpen now key later with ⟨-, -, -, kept⟩ | ⟨-, asked⟩
      · rw [kept]
        exact ⟨rfl, rfl, nofun⟩
      · rw [asked]
        refine ⟨rfl, rfl, ?_⟩
        rintro due ⟨⟩
        omega

end WorkQueue

namespace AttachingSettings

open KeyedBackoff (Use after inARow)

variable {growth : Growth} {settings : AttachingSettings} {history : List Use}
  {queue : WorkQueue}

/-- What becomes of a queue of a controller with the settings, with what has been done with the
failures of its keys, the latest first. -/
inductive Becomes (growth : Growth) (settings : AttachingSettings) :
    List Use → WorkQueue → Prop where
  | start : Becomes growth settings [] settings.queue
  | retry {history : List Use} {queue : WorkQueue} (now : Nat) (key : String) :
      Becomes growth settings history queue →
        Becomes growth settings (.fail key :: history) (queue.addLaterBy growth now key).2
  | forget {history : List Use} {queue : WorkQueue} (key : String) :
      Becomes growth settings history queue →
        Becomes growth settings (.forget key :: history) (queue.forget key)
  /-- Nothing else has to do with failures. -/
  | other {history : List Use} {queue later : WorkQueue} :
      Becomes growth settings history queue → later.backoff = queue.backoff →
        Becomes growth settings history later

theorem Becomes.backoff_eq (becomes : settings.Becomes growth history queue) :
    queue.backoff = after growth settings.retryPolicy history := by
  induction becomes with
  | start => rfl
  | @retry history queue now key _ ih =>
      rw [WorkQueue.addLaterBy_eq, (WorkQueue.addAfter_keeps _ now key _).1, after, ih]
  | forget key _ ih => rw [WorkQueue.forget, after, ih]
  | other _ same ih => rw [same, ih]

/-- How long the next retry of a key is put off. -/
def nextDelay (growth : Growth) (queue : WorkQueue) (key : String) : Nat :=
  (queue.backoff.failBy growth key).1

/-- The retries of keys that keep failing take more and more time, up to the longest delay. -/
structure RetriesGrow (growth : Growth) (settings : AttachingSettings) : Prop where
  positive : ∀ {history queue}, settings.Becomes growth history queue →
    ∀ key, 0 < nextDelay growth queue key
  waits : ∀ {history queue}, settings.Becomes growth history queue → ∀ now key,
    let (timer?, later) := queue.addLaterBy growth now key
    later.ready = queue.ready ∧ later.dirty = queue.dirty ∧ ∀ due, timer? = some due → now < due
  grows : ∀ {history queue}, settings.Becomes growth history queue → ∀ now key,
    let later := (queue.addLaterBy growth now key).2
    nextDelay growth queue key < nextDelay growth later key ∨
      nextDelay growth queue key = settings.retryMax ∧
        nextDelay growth later key = settings.retryMax
  reaches : ∃ enough, ∀ {history queue}, settings.Becomes growth history queue →
    ∀ key, enough ≤ inARow history key → nextDelay growth queue key = settings.retryMax

theorem Becomes.nextDelay_eq (becomes : settings.Becomes growth history queue)
    (exact : growth.IsExact settings.retryPolicy) (key : String) :
    nextDelay growth queue key = settings.retryPolicy.doubled (inARow history key) := by
  rw [nextDelay, becomes.backoff_eq, KeyedBackoff.delay_after exact]

theorem start_le_max_of_accepted (accepted : settings.fault? = none) :
    settings.retryStart ≤ settings.retryMax := by
  by_contra disordered
  unfold fault? at accepted
  simp only [Nat.lt_of_not_le disordered, if_true] at accepted
  split at accepted
  · contradiction
  · split at accepted <;> contradiction

/-- Of the settings that are accepted, just those whose first delay is not zero let no retry come
about without time passing. -/
theorem retriesGrow_iff (growth : Growth) (settings : AttachingSettings)
    (accepted : settings.fault? = none) (exact : growth.IsExact settings.retryPolicy) :
    settings.RetriesGrow growth ↔ 0 < settings.retryStart := by
  have ordered : settings.retryPolicy.first ≤ settings.retryPolicy.longest :=
    start_le_max_of_accepted accepted
  constructor
  · intro grow
    have first := grow.positive .start ""
    rwa [Becomes.nextDelay_eq .start exact] at first
  · intro start
    have positive : 0 < settings.retryPolicy.first := start
    refine ⟨?_, ?_, ?_, ⟨settings.retryMax, ?_⟩⟩
    · intro history queue becomes key
      rw [becomes.nextDelay_eq exact]
      exact RetryPolicy.doubled_pos positive ordered _
    · intro history queue becomes now key
      have delay := becomes.nextDelay_eq exact key
      have later := RetryPolicy.doubled_pos positive ordered (inARow history key)
      rw [← delay] at later
      exact WorkQueue.addAfter_waits _ now key (Nat.ne_of_gt later)
    · intro history queue becomes now key
      have again := Becomes.retry now key becomes
      simp only [becomes.nextDelay_eq exact, again.nextDelay_eq exact, KeyedBackoff.inARow_fail]
      exact RetryPolicy.doubled_lt_or_eq positive ordered _
    · intro history queue becomes key enough
      rw [becomes.nextDelay_eq exact]
      exact RetryPolicy.doubled_eq_longest positive ordered enough

theorem retriesGrow_of_defaults :
    ({} : AttachingSettings).fault? = none ∧
      Growth.inDouble.IsExact ({} : AttachingSettings).retryPolicy ∧
      ({} : AttachingSettings).RetriesGrow .inDouble := by
  have exact : Growth.inDouble.IsExact ({} : AttachingSettings).retryPolicy :=
    Growth.inDouble_isExact (by decide) (by decide)
  exact ⟨by decide, exact, (retriesGrow_iff .inDouble {} (by decide) exact).mpr (by decide)⟩

/-- Settings that differ from the defaults by a first delay of zero. -/
def hastySettings : AttachingSettings where
  retryStart := 0

/-- A first delay of zero is accepted, and stays zero however often a key fails, so that a key that
has failed is ready at the same instant. -/
theorem exists_retry_at_once :
    hastySettings.fault? = none ∧ Growth.inDouble.IsExact hastySettings.retryPolicy ∧
      ¬ hastySettings.RetriesGrow .inDouble ∧
      (∀ failures, ((after .inDouble hastySettings.retryPolicy
        (List.replicate failures (.fail "va-1"))).fail "va-1").1 = 0) ∧
      (hastySettings.queue.addLater 0 "va-1").2.ready = ["va-1"] := by
  have exact : Growth.inDouble.IsExact hastySettings.retryPolicy :=
    Growth.inDouble_isExact (by decide) (by decide)
  have stays (failures : Nat) : hastySettings.retryPolicy.doubled failures = 0 := by
    cases failures with
    | zero => rfl
    | succ failures => simp [retryPolicy, hastySettings]
  refine ⟨by decide, exact, ?_, ?_, by decide⟩
  · intro grow
    have first := grow.positive .start "va-1"
    rw [Becomes.nextDelay_eq .start exact, stays] at first
    exact Nat.lt_irrefl 0 first
  · intro failures
    exact (KeyedBackoff.delay_after exact _ "va-1").trans (stays _)

end AttachingSettings

end VolumeAttacher
