import VolumeAttacher.Queue.WorkQueue

/-!
# What the operations of a queue do to its keys

Producers, timers and workers use a queue in any order. An `Operation` is one of their steps, and
running it tells the `Event` that it amounts to, if any: a key was added, handed out, or a worker
was done with it. A delayed add is no event until its timer fires.

Of all that a queue holds only the keys decide who gets which key. `Operation.change` says once what
each operation may do to them; whatever is shown of the keys of a queue is shown by its cases.
-/

namespace VolumeAttacher.WorkQueue

inductive Operation where
  | add (key : String)
  | addAfter (now : Nat) (key : String) (delay : Nat)
  | addLater (now : Nat) (key : String)
  | fire (key : String) (due : Nat)
  | take (worker : Nat)
  | retake (worker : Nat)
  | finish (worker : Nat) (key : String)
  | forget (key : String)
  | close
  /-- What comes between the steps that an operation consists of: it may leave any delayed adds,
  failures and wake-ups. A timer that fires in two steps is this followed by an add. -/
  | stir (delayed : Table Nat) (backoff : KeyedBackoff) (signal : Signal)

inductive Event where
  | added (key : String)
  | handedOut (worker : Nat) (key : String)
  | finished (worker : Nat) (key : String)
deriving DecidableEq, Repr

/-- The event of a worker getting something. -/
def Event.ofHandout? (worker : Nat) : Handout → Option Event
  | .key key => some (.handedOut worker key)
  | .ended => none

/-- Runs an operation and tells the event that it amounts to. -/
def Operation.run (queue : WorkQueue) : Operation → Option Event × WorkQueue
  | add key => (some (.added key), queue.add key)
  | addAfter now key delay =>
      (if delay = 0 then some (.added key) else none, (queue.addAfter now key delay).2)
  | addLater now key =>
      (if (queue.backoff.fail key).1 = 0 then some (.added key) else none,
        (queue.addLater now key).2)
  | fire key due =>
      (if Table.find? queue.delayed key = some due then some (.added key) else none,
        queue.fire key due)
  | take worker => ((queue.take worker).1.bind (Event.ofHandout? worker), (queue.take worker).2)
  | retake worker =>
      ((queue.retake worker).1.bind (Event.ofHandout? worker), (queue.retake worker).2)
  | finish worker key => (some (.finished worker key), queue.finish key)
  | forget key => (none, queue.forget key)
  | close => (none, queue.close)
  | stir delayed backoff signal => (none, { queue with delayed, backoff, signal })

/-- The keys that a queue holds, and whether it is closed. -/
structure HasKeys (queue : WorkQueue) (ready dirty processing : List String) (closed : Bool) :
    Prop where
  ready : queue.ready = ready
  dirty : queue.dirty = dirty
  processing : queue.processing = processing
  closed : queue.closed = closed

/-- Whether two queues hold the same keys, so that they differ in delayed adds, failures and
wake-ups at most. -/
abbrev SameKeys (old new : WorkQueue) : Prop :=
  new.HasKeys old.ready old.dirty old.processing old.closed

/-- What may happen to the keys of a queue, by the event that it amounts to. -/
inductive Change (old new : WorkQueue) : Option Event → Prop where
  | aside (same : old.SameKeys new) : Change old new none
  | closed (keys : new.HasKeys old.ready old.dirty old.processing true) : Change old new none
  | ignored (key : String) (needless : old.closed = true ∨ key ∈ old.dirty)
      (same : old.SameKeys new) : Change old new (some (.added key))
  | added (key : String) (isOpen : old.closed = false) (fresh : key ∉ old.dirty)
      (keys : new.HasKeys (if key ∈ old.processing then old.ready else old.ready ++ [key])
        (old.dirty ++ [key]) old.processing old.closed) :
      Change old new (some (.added key))
  | handedOut (worker : Nat) (key : String) (first : old.ready = key :: new.ready)
      (keys : new.HasKeys new.ready (old.dirty.filter (· ≠ key)) (old.processing ++ [key])
        old.closed) :
      Change old new (some (.handedOut worker key))
  | finished (worker : Nat) (key : String)
      (keys : new.HasKeys
        (if key ∈ old.dirty ∧ old.closed = false then old.ready ++ [key] else old.ready) old.dirty
        (old.processing.filter (· ≠ key)) old.closed) :
      Change old new (some (.finished worker key))

variable {queue new : WorkQueue}

theorem change_add (queue : WorkQueue) (key : String) :
    Change queue (queue.add key) (some (.added key)) := by
  unfold add
  split
  next needless =>
      rw [Bool.or_eq_true, List.contains_iff_mem] at needless
      exact .ignored key needless ⟨rfl, rfl, rfl, rfl⟩
  next fresh =>
      rw [Bool.or_eq_true, List.contains_iff_mem, not_or, Bool.not_eq_true] at fresh
      rcases fresh with ⟨isOpen, fresh⟩
      by_cases inWork : key ∈ queue.processing
      · have marks := List.contains_iff_mem.mpr inWork
        exact .added key isOpen fresh (by simp only [marks, inWork]; exact ⟨rfl, rfl, rfl, rfl⟩)
      · have free : queue.processing.contains key = false := by simpa using inWork
        exact .added key isOpen fresh (by
          simp only [free, inWork]
          exact ⟨rfl, rfl, rfl, rfl⟩)

theorem SameKeys.trans {other : WorkQueue} (same : queue.SameKeys other)
    (later : other.SameKeys new) : queue.SameKeys new :=
  ⟨later.ready.trans same.ready, later.dirty.trans same.dirty,
    later.processing.trans same.processing, later.closed.trans same.closed⟩

/-- Whatever else of a queue was changed before, its keys change in the same way. -/
theorem Change.of_same {other : WorkQueue} {event : Option Event} (same : queue.SameKeys other)
    (change : Change other new event) : Change queue new event := by
  have keysAre := same
  rcases keysAre with ⟨ready, dirty, processing, closed⟩
  cases change with
  | aside later => exact .aside (same.trans later)
  | closed keys =>
      rw [ready, dirty, processing] at keys
      exact .closed keys
  | ignored key needless later =>
      rw [dirty, closed] at needless
      exact .ignored key needless (same.trans later)
  | added key isOpen fresh keys =>
      rw [ready, dirty, processing, closed] at keys
      rw [closed] at isOpen
      rw [dirty] at fresh
      exact .added key isOpen fresh keys
  | handedOut worker key first keys =>
      rw [ready] at first
      rw [dirty, processing, closed] at keys
      exact .handedOut worker key first keys
  | finished worker key keys =>
      rw [ready, dirty, processing, closed] at keys
      exact .finished worker key keys

theorem change_addAfter (queue : WorkQueue) (now : Nat) (key : String) (delay : Nat) :
    Change queue (queue.addAfter now key delay).2
      (if delay = 0 then some (.added key) else none) := by
  unfold addAfter
  by_cases atOnce : delay = 0
  · rw [if_pos atOnce, if_pos atOnce]
    exact change_add queue key
  · rw [if_neg atOnce, if_neg atOnce]
    apply Change.aside
    split
    · exact ⟨rfl, rfl, rfl, rfl⟩
    · dsimp only
      split
      · split <;> exact ⟨rfl, rfl, rfl, rfl⟩
      · exact ⟨rfl, rfl, rfl, rfl⟩

theorem change_addLater (queue : WorkQueue) (now : Nat) (key : String) :
    Change queue (queue.addLater now key).2
      (if (queue.backoff.fail key).1 = 0 then some (.added key) else none) := by
  rw [addLater_eq]
  generalize queue.backoff.fail key = failed
  rcases failed with ⟨delay, backoff⟩
  have counted : queue.SameKeys { queue with backoff } := ⟨rfl, rfl, rfl, rfl⟩
  exact .of_same counted (change_addAfter _ now key delay)

theorem change_fire (queue : WorkQueue) (key : String) (due : Nat) :
    Change queue (queue.fire key due)
      (if Table.find? queue.delayed key = some due then some (.added key) else none) := by
  unfold fire
  split
  · have expired : queue.SameKeys { queue with delayed := Table.erase queue.delayed key } :=
      ⟨rfl, rfl, rfl, rfl⟩
    exact .of_same expired (change_add _ key)
  · exact .aside ⟨rfl, rfl, rfl, rfl⟩

theorem change_finish (queue : WorkQueue) (worker : Nat) (key : String) :
    Change queue (queue.finish key) (some (.finished worker key)) := by
  refine .finished worker key ?_
  by_cases again : key ∈ queue.dirty ∧ queue.closed = false
  · have marked : (queue.dirty.contains key && !queue.closed) = true := by simpa using again
    rw [if_pos again]
    unfold finish
    rw [if_pos marked]
    exact ⟨rfl, rfl, rfl, rfl⟩
  · have settled : ¬(queue.dirty.contains key && !queue.closed) = true := by simpa using again
    rw [if_neg again]
    unfold finish
    rw [if_neg settled]
    exact ⟨rfl, rfl, rfl, rfl⟩

/-- What asking for a key may come to: the first ready key, or nothing if none is ready. -/
inductive Takes (old : WorkQueue) : Option Handout → WorkQueue → Prop where
  | key {key : String} {new : WorkQueue} (first : old.ready = key :: new.ready)
      (keys : new.HasKeys new.ready (old.dirty.filter (· ≠ key)) (old.processing ++ [key])
        old.closed) : Takes old (some (.key key)) new
  | nothing {handout : Option Handout} {new : WorkQueue} (none : old.ready = [])
      (noKey : ∀ key, handout ≠ some (.key key)) (same : old.SameKeys new) : Takes old handout new

theorem takes_of_handOut? {handout : Handout} (handedOut : queue.handOut? = some (handout, new)) :
    Takes queue (some handout) new := by
  unfold handOut? at handedOut
  split at handedOut
  next key rest first =>
      have same := Option.some.inj handedOut
      rw [Prod.mk.injEq] at same
      rcases same with ⟨rfl, rfl⟩
      split
      · exact .key first ⟨rfl, rfl, rfl, rfl⟩
      · exact .key first ⟨rfl, rfl, rfl, rfl⟩
  next none =>
      split at handedOut
      · have same := Option.some.inj handedOut
        rw [Prod.mk.injEq] at same
        rcases same with ⟨rfl, rfl⟩
        exact .nothing none (fun key => by simp) ⟨rfl, rfl, rfl, rfl⟩
      · contradiction

theorem ready_of_handOut? (nothing : queue.handOut? = none) : queue.ready = [] := by
  unfold handOut? at nothing
  split at nothing
  · contradiction
  next none => exact none

theorem Takes.of_same {other : WorkQueue} {handout : Option Handout}
    (same : queue.SameKeys other) (takes : Takes other handout new) :
    Takes queue handout new := by
  cases takes with
  | key first keys =>
      rw [same.ready] at first
      rw [same.dirty, same.processing, same.closed] at keys
      exact .key first keys
  | nothing none noKey later =>
      rw [same.ready] at none
      exact .nothing none noKey (same.trans later)

theorem takes_attempt (queue : WorkQueue) (worker : Nat) :
    Takes queue (queue.attempt worker).2.1 (queue.attempt worker).2.2 := by
  have armed : queue.SameKeys (queue.arm worker).2 := ⟨rfl, rfl, rfl, rfl⟩
  refine .of_same armed ?_
  unfold attempt
  dsimp only
  split
  next handout new handedOut =>
      cases takes_of_handOut? handedOut with
      | key first keys =>
          exact .key first ⟨keys.ready, keys.dirty, keys.processing, keys.closed⟩
      | nothing none noKey same =>
          exact .nothing none noKey ⟨same.ready, same.dirty, same.processing, same.closed⟩
  next nothing =>
      exact .nothing (ready_of_handOut? nothing) (fun key => by simp) ⟨rfl, rfl, rfl, rfl⟩

/-- Looking a second time finds no more than looking once. -/
theorem takes_take (queue : WorkQueue) (worker : Nat) :
    Takes queue (queue.take worker).1 (queue.take worker).2 := by
  have looked := takes_attempt queue worker
  unfold take
  cases attempted : queue.attempt worker with
  | mk woken found =>
      rw [attempted] at looked
      rcases found with ⟨handout, new⟩
      cases looked with
      | key first keys => cases woken <;> exact .key first keys
      | nothing none noKey same =>
          cases woken with
          | false => exact .nothing none noKey same
          | true =>
              cases handout with
              | some handout => exact .nothing none noKey same
              | none => exact .of_same same (takes_attempt new worker)

theorem takes_retake (queue : WorkQueue) (worker : Nat) :
    Takes queue (queue.retake worker).1 (queue.retake worker).2 := by
  have resumed : queue.SameKeys { queue with signal := queue.signal.resume worker } :=
    ⟨rfl, rfl, rfl, rfl⟩
  exact .of_same resumed (takes_take _ worker)

theorem Takes.change {handout : Option Handout} (takes : Takes queue handout new) (worker : Nat) :
    Change queue new (handout.bind (Event.ofHandout? worker)) := by
  cases takes with
  | key first keys => exact .handedOut worker _ first keys
  | nothing none noKey same =>
      cases handout with
      | none => exact .aside same
      | some handout =>
          cases handout with
          | key key => exact absurd rfl (noKey key)
          | ended => exact .aside same

theorem Operation.change {operation : Operation} {event : Option Event}
    (runs : operation.run queue = (event, new)) : Change queue new event := by
  cases operation with (rw [run, Prod.mk.injEq] at runs; rcases runs with ⟨rfl, rfl⟩)
  | add key => exact change_add queue key
  | addAfter now key delay => exact change_addAfter queue now key delay
  | addLater now key => exact change_addLater queue now key
  | fire key due => exact change_fire queue key due
  | take worker => exact (takes_take queue worker).change worker
  | retake worker => exact (takes_retake queue worker).change worker
  | finish worker key => exact change_finish queue worker key
  | forget key => exact .aside ⟨rfl, rfl, rfl, rfl⟩
  | close => exact .closed ⟨rfl, rfl, rfl, rfl⟩
  | stir delayed backoff signal => exact .aside ⟨rfl, rfl, rfl, rfl⟩

theorem eq_finish_of_run {operation : Operation} {worker : Nat} {key : String}
    (runs : operation.run queue = (some (.finished worker key), new)) :
    operation = .finish worker key := by
  have noHandout (taker : Nat) (handout : Option Handout) :
      handout.bind (Event.ofHandout? taker) ≠ some (.finished worker key) := by
    rcases handout with _ | _ | _ <;> simp [Event.ofHandout?]
  cases operation with (rw [Operation.run, Prod.mk.injEq] at runs)
  | take taker => exact absurd runs.1 (noHandout taker _)
  | retake taker => exact absurd runs.1 (noHandout taker _)
  | finish => simpa using runs.1
  | add | addAfter | addLater | fire | forget | close | stir => simp at runs

end VolumeAttacher.WorkQueue
