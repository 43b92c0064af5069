import Mathlib.Logic.Function.Iterate
import VolumeAttacher.Proofs.Queue.Operations

/-!
# Delayed adds and failures

What `Operation.change` leaves out: the delayed adds of a queue and the failures of its keys.

A key is scheduled by some deadline if it is dirty or a delayed add of it is due by then. Delayed
adds are only ever replaced by earlier ones, and a timer that fires makes its key dirty, so that a
key stays scheduled until it is handed out.

After each failure the delay for the next one has grown by one step of the policy, so that the
retries of a key that are kept are a function of the number of its failures.
-/

namespace VolumeAttacher

/-- How long to wait after a failure that follows a number of others. -/
def RetryPolicy.waitAfter (policy : RetryPolicy) (failures : Nat) : Nat :=
  wait (policy.next^[failures] policy.first)

/-- What is kept of a key after a number of failures. -/
def Retries.after? (policy : RetryPolicy) : Nat → Option Retries
  | 0 => none
  | failures + 1 => some ⟨policy.next^[failures + 1] policy.first, min (failures + 1) most⟩

namespace KeyedBackoff

variable {backoff : KeyedBackoff} {policy : RetryPolicy} {key other : String} {failures : Nat}

/-- Whether the failures of a key that are kept are those of a number of failures in a row. -/
structure Counts (backoff : KeyedBackoff) (policy : RetryPolicy) (key : String) (failures : Nat) :
    Prop where
  samePolicy : backoff.policy = policy
  retries : Table.find? backoff.retries key = Retries.after? policy failures

theorem Counts.failures_eq (counts : backoff.Counts policy key failures) :
    backoff.failures key = min failures Retries.most := by
  unfold KeyedBackoff.failures
  rw [counts.retries]
  cases failures with
  | zero => rfl
  | succ failures => rfl

/-- The delay of the next failure, and what is kept after it. -/
theorem Counts.fail_eq (counts : backoff.Counts policy key failures) :
    backoff.fail key = (policy.waitAfter failures,
      { backoff with
        retries := Table.insert backoff.retries key
          ⟨policy.next^[failures + 1] policy.first, min (failures + 1) Retries.most⟩ }) := by
  have kept : (Retries.after? policy failures).getD ⟨policy.first, 0⟩ =
      ⟨policy.next^[failures] policy.first, min failures Retries.most⟩ := by
    cases failures with
    | zero =>
        rw [Nat.zero_min]
        rfl
    | succ failures => rfl
  have counted : min (min failures Retries.most + 1) Retries.most =
      min (failures + 1) Retries.most := by omega
  unfold KeyedBackoff.fail failBy RetryPolicy.waitAfter
  rw [counts.retries, counts.samePolicy, kept]
  simp only [counted, Growth.inDouble, Function.iterate_succ_apply']

theorem Counts.fail (counts : backoff.Counts policy key failures) :
    (backoff.fail key).2.Counts policy key (failures + 1) := by
  rw [counts.fail_eq]
  exact ⟨counts.samePolicy, (Table.find?_insert _ _ _ _).trans (if_pos rfl)⟩

theorem Counts.fail_of_ne (counts : backoff.Counts policy key failures) (different : key ≠ other) :
    (backoff.fail other).2.Counts policy key failures :=
  ⟨counts.samePolicy, ((Table.find?_insert _ _ _ _).trans (if_neg different)).trans counts.retries⟩

theorem Counts.forget (counts : backoff.Counts policy key failures) :
    (backoff.forget key).Counts policy key 0 :=
  ⟨counts.samePolicy, (Table.find?_erase _ _ _).trans (if_pos rfl)⟩

theorem Counts.forget_of_ne (counts : backoff.Counts policy key failures)
    (different : key ≠ other) : (backoff.forget other).Counts policy key failures :=
  ⟨counts.samePolicy, ((Table.find?_erase _ _ _).trans (if_neg different)).trans counts.retries⟩

end KeyedBackoff

namespace WorkQueue

variable {queue new : WorkQueue} {key : String} {deadline : Nat}

/-- Whether two queues differ in their keys and wake-ups at most. -/
structure SameRest (old new : WorkQueue) : Prop where
  delayed : new.delayed = old.delayed
  backoff : new.backoff = old.backoff
  closed : new.closed = old.closed

theorem SameRest.trans {other : WorkQueue} (same : queue.SameRest other)
    (later : other.SameRest new) : queue.SameRest new :=
  ⟨later.delayed.trans same.delayed, later.backoff.trans same.backoff,
    later.closed.trans same.closed⟩

theorem sameRest_add (queue : WorkQueue) (key : String) : queue.SameRest (queue.add key) := by
  unfold add
  split
  · exact ⟨rfl, rfl, rfl⟩
  · dsimp only
    split <;> exact ⟨rfl, rfl, rfl⟩

theorem sameRest_finish (queue : WorkQueue) (key : String) :
    queue.SameRest (queue.finish key) := by
  unfold finish
  dsimp only
  split <;> exact ⟨rfl, rfl, rfl⟩

theorem sameRest_of_handOut? {handout : Handout}
    (handedOut : queue.handOut? = some (handout, new)) : queue.SameRest new := by
  unfold handOut? at handedOut
  split at handedOut
  · cases handedOut
    split <;> exact ⟨rfl, rfl, rfl⟩
  · split at handedOut
    · cases handedOut
      exact ⟨rfl, rfl, rfl⟩
    · contradiction

theorem sameRest_attempt (queue : WorkQueue) (worker : Nat) :
    queue.SameRest (queue.attempt worker).2.2 := by
  have armed : queue.SameRest (queue.arm worker).2 := ⟨rfl, rfl, rfl⟩
  refine armed.trans ?_
  unfold attempt
  dsimp only
  split
  next handedOut =>
      have handedOut := sameRest_of_handOut? handedOut
      exact ⟨handedOut.delayed, handedOut.backoff, handedOut.closed⟩
  next => exact ⟨rfl, rfl, rfl⟩

theorem sameRest_take (queue : WorkQueue) (worker : Nat) :
    queue.SameRest (queue.take worker).2 := by
  have looked := sameRest_attempt queue worker
  unfold take
  cases attempted : queue.attempt worker with
  | mk woken found =>
      rw [attempted] at looked
      rcases found with ⟨handout, new⟩
      cases woken with
      | false => exact looked
      | true =>
          cases handout with
          | some handout => exact looked
          | none => exact looked.trans (sameRest_attempt new worker)

theorem sameRest_retake (queue : WorkQueue) (worker : Nat) :
    queue.SameRest (queue.retake worker).2 := by
  have resumed : queue.SameRest { queue with signal := queue.signal.resume worker } :=
    ⟨rfl, rfl, rfl⟩
  exact resumed.trans (sameRest_take _ worker)

/-- Whether an operation may come up in a queue that is in use: it is not closed, and nothing in it
is changed arbitrarily. -/
def Operation.isUsual : Operation → Bool
  | close | stir _ _ _ => false
  | _ => true

/-- What an operation makes of the failures that are kept. -/
def Operation.counted (backoff : KeyedBackoff) : Operation → KeyedBackoff
  | addLater _ key => (backoff.fail key).2
  | forget key => backoff.forget key
  | _ => backoff

theorem addAfter_keeps (queue : WorkQueue) (now : Nat) (key : String) (delay : Nat) :
    (queue.addAfter now key delay).2.backoff = queue.backoff ∧
      (queue.addAfter now key delay).2.closed = queue.closed := by
  unfold addAfter
  split
  · have same := sameRest_add queue key
    exact ⟨same.backoff, same.closed⟩
  · split
    · exact ⟨rfl, rfl⟩
    · dsimp only
      split
      · split <;> exact ⟨rfl, rfl⟩
      · exact ⟨rfl, rfl⟩

theorem fire_keeps (queue : WorkQueue) (key : String) (due : Nat) :
    (queue.fire key due).backoff = queue.backoff ∧
      (queue.fire key due).closed = queue.closed := by
  unfold fire
  split
  · have same := sameRest_add { queue with delayed := Table.erase queue.delayed key } key
    exact ⟨same.backoff, same.closed⟩
  · exact ⟨rfl, rfl⟩

/-- A usual operation changes the failures as it is to, and leaves the queue open. -/
theorem Operation.run_keeps {operation : Operation} {event : Option Event}
    (isUsual : operation.isUsual) (runs : operation.run queue = (event, new)) :
    new.backoff = operation.counted queue.backoff ∧ new.closed = queue.closed := by
  have kept {new : WorkQueue} (same : queue.SameRest new) :
      new.backoff = queue.backoff ∧ new.closed = queue.closed :=
    ⟨same.backoff, same.closed⟩
  cases operation with (rw [run, Prod.mk.injEq] at runs; rcases runs with ⟨rfl, rfl⟩)
  | add key => exact kept (sameRest_add queue key)
  | addAfter now key delay => exact addAfter_keeps queue now key delay
  | addLater now key =>
      rw [addLater_eq]
      exact addAfter_keeps _ now key _
  | fire key due => exact fire_keeps queue key due
  | take worker => exact kept (sameRest_take queue worker)
  | retake worker => exact kept (sameRest_retake queue worker)
  | finish worker key => exact kept (sameRest_finish queue key)
  | forget key => exact ⟨rfl, rfl⟩
  | close | stir delayed backoff signal => contradiction

/-- Nothing but closing closes a queue. -/
theorem Operation.isOpen {operation : Operation} {event : Option Event}
    (runs : operation.run queue = (event, new)) (isOpen : queue.closed = false)
    (notClosing : operation ≠ .close) : new.closed = false := by
  by_cases isUsual : operation.isUsual
  · exact (run_keeps isUsual runs).2.trans isOpen
  · cases operation with
    | close => exact absurd rfl notClosing
    | stir delayed backoff signal =>
        rw [run, Prod.mk.injEq] at runs
        rcases runs with ⟨-, rfl⟩
        exact isOpen
    | add | addAfter | addLater | fire | take | retake | finish | forget =>
        exact absurd rfl isUsual

theorem Operation.isClosed {operation : Operation} {event : Option Event}
    (runs : operation.run queue = (event, new)) (isClosed : queue.closed = true) :
    new.closed = true := by
  cases change runs with
  | closed keys => exact keys.closed
  | added _ isOpen => simp [isClosed] at isOpen
  | aside keys | ignored _ _ keys | handedOut _ _ _ keys | finished _ _ keys =>
      exact keys.closed.trans isClosed

/-- Whether a key is dirty, or a delayed add of it is due by a deadline. -/
def IsScheduled (queue : WorkQueue) (key : String) (deadline : Nat) : Prop :=
  key ∈ queue.dirty ∨ ∃ due, Table.find? queue.delayed key = some due ∧ due ≤ deadline

theorem IsScheduled.mono {later : Nat} (scheduled : queue.IsScheduled key deadline)
    (isLater : deadline ≤ later) : queue.IsScheduled key later := by
  rcases scheduled with dirty | ⟨due, delayed, dueBy⟩
  · exact .inl dirty
  · exact .inr ⟨due, delayed, Nat.le_trans dueBy isLater⟩

theorem isScheduled_add (isOpen : queue.closed = false) (key : String) :
    (queue.add key).IsScheduled key deadline := by
  left
  cases change_add queue key with
  | ignored _ needless same =>
      rw [isOpen] at needless
      rw [same.dirty]
      exact needless.resolve_left Bool.false_ne_true
  | added _ _ _ keys =>
      rw [keys.dirty]
      exact List.mem_append_right _ List.mem_cons_self

/-- Of several delayed adds the earliest counts, so that a new one is at hand by the time it is due,
or before. -/
theorem isScheduled_addAfter (isOpen : queue.closed = false) (now : Nat) (key : String)
    (delay : Nat) : (queue.addAfter now key delay).2.IsScheduled key (now + delay) := by
  have delays (kept : WorkQueue) :
      IsScheduled { kept with delayed := Table.insert queue.delayed key (now + delay) } key
        (now + delay) :=
    .inr ⟨_, (Table.find?_insert _ _ _ _).trans (if_pos rfl), Nat.le_refl _⟩
  unfold addAfter
  split
  · exact isScheduled_add isOpen key
  · rw [if_neg (by simp [isOpen])]
    dsimp only
    split
    next earlier found =>
        split
        next isEarlier => exact .inr ⟨earlier, found, isEarlier⟩
        next => exact delays queue
    next => exact delays queue

theorem isScheduled_addLater (isOpen : queue.closed = false) (now : Nat) (key : String) :
    (queue.addLater now key).2.IsScheduled key (now + (queue.backoff.fail key).1) := by
  rw [addLater_eq]
  exact isScheduled_addAfter (by exact isOpen) now key _

theorem Change.mem_dirty {event : Option Event} (change : Change queue new event)
    (notHandedOut : ∀ worker, event ≠ some (.handedOut worker key)) (dirty : key ∈ queue.dirty) :
    key ∈ new.dirty := by
  cases change with
  | aside keys | closed keys | ignored _ _ keys | finished _ _ keys =>
      rw [keys.dirty]
      exact dirty
  | added _ _ _ keys =>
      rw [keys.dirty]
      exact List.mem_append_left _ dirty
  | handedOut worker taken _ keys =>
      rw [keys.dirty, List.mem_filter, decide_eq_true_eq]
      refine ⟨dirty, ?_⟩
      rintro rfl
      exact notHandedOut worker rfl

theorem IsScheduled.of_change {event : Option Event} (scheduled : queue.IsScheduled key deadline)
    (same : queue.SameRest new) (change : Change queue new event)
    (notHandedOut : ∀ worker, event ≠ some (.handedOut worker key)) :
    new.IsScheduled key deadline := by
  rcases scheduled with dirty | delayed
  · exact .inl (change.mem_dirty notHandedOut dirty)
  · rw [← same.delayed] at delayed
    exact .inr delayed

theorem IsScheduled.add (scheduled : queue.IsScheduled key deadline) (other : String) :
    (queue.add other).IsScheduled key deadline :=
  scheduled.of_change (sameRest_add queue other) (change_add queue other) (by simp)

/-- A delayed add is only ever replaced by an earlier one. -/
theorem IsScheduled.addAfter (scheduled : queue.IsScheduled key deadline) (now : Nat)
    (other : String) (delay : Nat) :
    (queue.addAfter now other delay).2.IsScheduled key deadline := by
  have replaced (isEarlier : ∀ due, Table.find? queue.delayed other = some due →
      now + delay ≤ due) :
      IsScheduled { queue with delayed := Table.insert queue.delayed other (now + delay) } key
        deadline := by
    rcases scheduled with dirty | ⟨due, delayed, dueBy⟩
    · exact .inl dirty
    · right
      by_cases same : key = other
      · subst same
        exact ⟨now + delay, (Table.find?_insert _ _ _ _).trans (if_pos rfl),
          Nat.le_trans (isEarlier due delayed) dueBy⟩
      · exact ⟨due, ((Table.find?_insert _ _ _ _).trans (if_neg same)).trans delayed, dueBy⟩
  unfold WorkQueue.addAfter
  split
  · exact scheduled.add other
  · split
    · exact scheduled
    · dsimp only
      split
      next earlier found =>
          split
          next => exact scheduled
          next notEarlier =>
              apply replaced
              intro due foundDue
              cases Option.some.inj (found.symm.trans foundDue)
              exact Nat.le_of_not_le notEarlier
      next missing =>
          apply replaced
          intro due foundDue
          rw [missing] at foundDue
          contradiction

theorem IsScheduled.fire (scheduled : queue.IsScheduled key deadline)
    (isOpen : queue.closed = false) (other : String) (due : Nat) :
    (queue.fire other due).IsScheduled key deadline := by
  unfold WorkQueue.fire
  split
  · by_cases same : key = other
    · subst same
      exact isScheduled_add (by exact isOpen) key
    · have kept :
          IsScheduled { queue with delayed := Table.erase queue.delayed other } key deadline := by
        rcases scheduled with dirty | ⟨due, delayed, dueBy⟩
        · exact .inl dirty
        · exact .inr ⟨due, ((Table.find?_erase _ _ _).trans (if_neg same)).trans delayed, dueBy⟩
      exact kept.add other
  · exact scheduled

theorem IsScheduled.run {operation : Operation} {event : Option Event}
    (scheduled : queue.IsScheduled key deadline) (isUsual : operation.isUsual)
    (isOpen : queue.closed = false) (runs : operation.run queue = (event, new))
    (notHandedOut : ∀ worker, event ≠ some (.handedOut worker key)) :
    new.IsScheduled key deadline := by
  have change := Operation.change runs
  cases operation with (rw [Operation.run, Prod.mk.injEq] at runs; rcases runs with ⟨rfl, rfl⟩)
  | add other => exact scheduled.add other
  | addAfter now other delay => exact scheduled.addAfter now other delay
  | addLater now other =>
      rw [addLater_eq]
      have counted : IsScheduled { queue with backoff := (queue.backoff.fail other).2 } key
          deadline :=
        scheduled
      exact counted.addAfter now other _
  | fire other due => exact scheduled.fire isOpen other due
  | take worker => exact scheduled.of_change (sameRest_take queue worker) change notHandedOut
  | retake worker => exact scheduled.of_change (sameRest_retake queue worker) change notHandedOut
  | finish worker other =>
      exact scheduled.of_change (sameRest_finish queue other) change notHandedOut
  | forget other => exact scheduled
  | close | stir delayed backoff signal => contradiction

end WorkQueue

end VolumeAttacher
