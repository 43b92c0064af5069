import VolumeAttacher.Proofs.Time.DoublePrecision
import VolumeAttacher.Queue.Backoff

/-!
# Doubling delays

The delays of a key are the first one of the policy, twice that, four times that and so on, cut at
the longest one. They depend on the failures of the key since it was last forgotten and on nothing
else, whatever happens to other keys in between.
-/

namespace VolumeAttacher

/-- Up to the greatest delay of a policy, delays are waited for as they are, and doubled exactly. -/
structure Growth.IsExact (growth : Growth) (policy : RetryPolicy) : Prop where
  wait_eq : ∀ delay ≤ max policy.first policy.longest, growth.wait delay = delay
  next_eq : ∀ delay ≤ max policy.first policy.longest,
    growth.next policy delay = if policy.longest ≤ 2 * delay then policy.longest else 2 * delay

/-- Below 104 days double precision is exact. -/
theorem Growth.inDouble_isExact {policy : RetryPolicy} (first : policy.first < 2 ^ 53)
    (longest : policy.longest < 2 ^ 53) : Growth.inDouble.IsExact policy where
  wait_eq delay within := by
    have small : delay < 2 ^ 53 := by omega
    change Duration.ofDouble (Duration.inDouble delay) = delay
    rw [Duration.inDouble_of_small small, Duration.ofDouble_of_small small]
  next_eq delay within := by
    have small : delay < 2 ^ 53 := by omega
    change policy.next delay = _
    rw [RetryPolicy.next, Duration.inDouble_of_small small, Duration.inDouble_of_small longest]
    split
    · rfl
    · exact Duration.ofDouble_of_small (by omega)

namespace RetryPolicy

/-- The delay after a failure that follows a number of others. -/
def doubled (policy : RetryPolicy) (failures : Nat) : Nat :=
  if failures = 0 then policy.first else min (policy.first * 2 ^ failures) policy.longest

variable {policy : RetryPolicy} {growth : Growth}

@[simp] theorem doubled_zero : policy.doubled 0 = policy.first := rfl

@[simp] theorem doubled_succ (failures : Nat) :
    policy.doubled (failures + 1) = min (policy.first * 2 ^ (failures + 1)) policy.longest := rfl

theorem doubled_le (failures : Nat) :
    policy.doubled failures ≤ max policy.first policy.longest := by
  cases failures with
  | zero => simp
  | succ failures => simp

/-- With the bounds in order, the first delay needs no exception. -/
theorem doubled_eq_min (ordered : policy.first ≤ policy.longest) (failures : Nat) :
    policy.doubled failures = min (policy.first * 2 ^ failures) policy.longest := by
  cases failures with
  | zero => simp [ordered]
  | succ failures => rfl

theorem doubled_mono (ordered : policy.first ≤ policy.longest) {fewer more : Nat}
    (isLess : fewer ≤ more) : policy.doubled fewer ≤ policy.doubled more := by
  have powers : 2 ^ fewer ≤ 2 ^ more := Nat.pow_le_pow_right (by omega) isLess
  simp only [doubled_eq_min ordered]
  exact min_le_min_right _ (Nat.mul_le_mul_left _ powers)

theorem next_doubled (exact : growth.IsExact policy) (failures : Nat) :
    growth.next policy (policy.doubled failures) = policy.doubled (failures + 1) := by
  have twice : policy.first * 2 ^ (failures + 1) = 2 * (policy.first * 2 ^ failures) := by
    rw [Nat.pow_succ', Nat.mul_left_comm]
  rw [exact.next_eq _ (doubled_le failures), ← min_def, min_comm, doubled_succ, twice]
  cases failures with
  | zero => simp
  | succ failures =>
      rw [doubled_succ]
      omega

end RetryPolicy

namespace KeyedBackoff

/-- What is done with the failures of a key. -/
inductive Use where
  | fail (key : String)
  | forget (key : String)
deriving DecidableEq

def Use.key : Use → String
  | fail key => key
  | forget key => key

/-- The failures that are kept after a history of uses, the latest one first. -/
def after (growth : Growth) (policy : RetryPolicy) : List Use → KeyedBackoff
  | [] => ⟨policy, []⟩
  | .fail key :: history => ((after growth policy history).failBy growth key).2
  | .forget key :: history => (after growth policy history).forget key

/-- The number of failures of a key since it was last forgotten, in a history with the latest use
first. -/
def inARow (history : List Use) (key : String) : Nat :=
  (history.takeWhile (· ≠ .forget key)).count (.fail key)

variable {growth : Growth} {policy : RetryPolicy} {history : List Use} {key : String}

@[simp] theorem inARow_nil : inARow [] key = 0 := rfl

@[simp] theorem inARow_fail : inARow (.fail key :: history) key = inARow history key + 1 := by
  simp [inARow]

@[simp] theorem inARow_forget : inARow (.forget key :: history) key = 0 := by
  simp [inARow]

theorem inARow_of_ne {use : Use} (other : use.key ≠ key) :
    inARow (use :: history) key = inARow history key := by
  cases use with
  | fail name =>
      have other : name ≠ key := other
      simp [inARow, other]
  | forget name =>
      have other : name ≠ key := other
      simp [inARow, other]

theorem inARow_append_of_ne {others : List Use} (other : ∀ use ∈ others, use.key ≠ key) :
    inARow (others ++ history) key = inARow history key := by
  induction others with
  | nil => rfl
  | cons use others ih =>
      rw [List.cons_append, inARow_of_ne (other use (by simp))]
      exact ih fun use mem => other use (by simp [mem])

theorem inARow_le_append {more : List Use} (kept : .forget key ∉ more) :
    inARow history key ≤ inARow (more ++ history) key := by
  have none_forgets : ∀ use ∈ more, (decide (use ≠ .forget key)) = true := by
    intro use mem
    simpa using ne_of_mem_of_not_mem mem kept
  rw [inARow, inARow, List.takeWhile_append_of_pos none_forgets, List.count_append]
  omega

/-- What is kept of a key after a number of failures. -/
def kept? (policy : RetryPolicy) (failures : Nat) : Option Retries :=
  if failures = 0 then none else some ⟨policy.doubled failures, min failures Retries.most⟩

theorem policy_after : (after growth policy history).policy = policy := by
  induction history with
  | nil => rfl
  | cons use history ih =>
      cases use with
      | fail name => exact ih
      | forget name => exact ih

theorem failBy_of_kept {backoff : KeyedBackoff} {failures : Nat} (exact : growth.IsExact policy)
    (samePolicy : backoff.policy = policy)
    (kept : Table.find? backoff.retries key = kept? policy failures) :
    backoff.failBy growth key = (policy.doubled failures,
      { backoff with
        retries := Table.insert backoff.retries key
          ⟨policy.doubled (failures + 1), min (failures + 1) Retries.most⟩ }) := by
  have found : (kept? policy failures).getD ⟨policy.first, 0⟩ =
      ⟨policy.doubled failures, min failures Retries.most⟩ := by
    cases failures with
    | zero => simp [kept?]
    | succ failures => rfl
  have counted : min (min failures Retries.most + 1) Retries.most =
      min (failures + 1) Retries.most := by omega
  rw [failBy, kept, samePolicy, found]
  simp only [counted, exact.wait_eq _ (RetryPolicy.doubled_le failures),
    RetryPolicy.next_doubled exact]

theorem retries_failBy (backoff : KeyedBackoff) (name : String) (other : name ≠ key) :
    Table.find? (backoff.failBy growth name).2.retries key = Table.find? backoff.retries key := by
  simp [failBy, other.symm]

/-- What is kept of a key is a function of the number of its failures in a row. -/
theorem find?_after (exact : growth.IsExact policy) (history : List Use) (key : String) :
    Table.find? (after growth policy history).retries key = kept? policy (inARow history key) := by
  induction history with
  | nil => rfl
  | cons use history ih =>
      by_cases same : use.key = key
      · subst same
        cases use with
        | fail name =>
            have failed := failBy_of_kept exact policy_after ih
            simp only [Use.key] at failed ⊢
            simp [after, failed, kept?]
        | forget name => simp [after, forget, kept?, Use.key]
      · rw [inARow_of_ne same, ← ih]
        cases use with
        | fail name => exact retries_failBy _ name same
        | forget name =>
            have other : key ≠ name := fun isName => same isName.symm
            simp [after, forget, other]

theorem delay_after (exact : growth.IsExact policy) (history : List Use) (key : String) :
    ((after growth policy history).failBy growth key).1 =
      policy.doubled (inARow history key) := by
  rw [failBy_of_kept exact policy_after (find?_after exact history key)]

theorem failures_after (exact : growth.IsExact policy) (history : List Use) (key : String) :
    (after growth policy history).failures key = min (inARow history key) Retries.most := by
  rw [failures, find?_after exact]
  by_cases none : inARow history key = 0
  · simp [kept?, none]
  · simp [kept?, none]

/-- After any failures and forgettings, of any keys, the delay of a key and the number that is told
of its failures are those of its failures since it was last forgotten. What is done with other keys
changes neither, and with the bounds in order the delays grow up to the longest one. -/
theorem delays_are_doubled (growth : Growth) (policy : RetryPolicy)
    (exact : growth.IsExact policy) (history : List Use) (key : String) :
    let delayAfter (history : List Use) := ((after growth policy history).failBy growth key).1
    let told (history : List Use) := (after growth policy history).failures key
    let failures := inARow history key
    (delayAfter history =
        if failures = 0 then policy.first else min (policy.first * 2 ^ failures) policy.longest) ∧
      told history = min failures 0xFFFFFFFF ∧
      (∀ others, (∀ use ∈ others, use.key ≠ key) →
        delayAfter (others ++ history) = delayAfter history ∧
          told (others ++ history) = told history) ∧
      (policy.first ≤ policy.longest →
        delayAfter history ≤ policy.longest ∧
          ∀ more, .forget key ∉ more → delayAfter history ≤ delayAfter (more ++ history)) := by
  simp only [delay_after exact, failures_after exact]
  refine ⟨rfl, rfl, ?_, ?_⟩
  · intro others other
    rw [inARow_append_of_ne other]
    exact ⟨rfl, rfl⟩
  · intro ordered
    constructor
    · rw [RetryPolicy.doubled_eq_min ordered]
      exact min_le_right _ _
    · intro more kept
      exact RetryPolicy.doubled_mono ordered (inARow_le_append kept)

/-- A policy whose longest delay is no power of two times the first one, with a key that fails six
times beside another one. -/
theorem delays_are_doubled_up_to_ten_seconds :
    let policy : RetryPolicy := ⟨Duration.ofSeconds 1, Duration.ofSeconds 10⟩
    let history : List Use := [.fail "b", .fail "a", .fail "a", .forget "b", .fail "a", .fail "b",
      .fail "a", .forget "a", .fail "a"]
    let delayAfter (history : List Use) (key : String) :=
      ((after .inDouble policy history).failBy .inDouble key).1
    Growth.inDouble.IsExact policy ∧
      delayAfter history "a" = Duration.ofSeconds 10 ∧
      (after .inDouble policy history).failures "a" = 4 ∧
      delayAfter (.fail "a" :: history) "b" = delayAfter history "b" ∧
      delayAfter history "b" ≤ delayAfter (.fail "b" :: history) "b" := by
  intro policy history delayAfter
  have exact : Growth.inDouble.IsExact policy := Growth.inDouble_isExact (by decide) (by decide)
  rcases delays_are_doubled .inDouble policy exact history "a" with ⟨delay, told, -, -⟩
  rcases delays_are_doubled .inDouble policy exact history "b" with ⟨-, -, others, grows⟩
  exact ⟨exact, delay.trans (by decide), told.trans (by decide), (others [.fail "a"] (by decide)).1,
    (grows (by decide)).2 [.fail "b"] (by decide)⟩

end KeyedBackoff

end VolumeAttacher
