import VolumeAttacher.Queue.Backoff
import VolumeAttacher.Queue.Signal

/-!
# The work queue

A queue of keys, the names of objects to be worked on. A key is handed to one worker at a time:
while it is being processed, adding it only marks it, and it becomes ready again once, when the
worker is done with it. A key may also be added after a delay; of several delayed adds of a key only
the earliest counts. A queue that is closed takes no more keys, hands out those that are ready, and
then tells each worker that it has ended.

Operations that need the time take it as an argument. `WorkQueue.addAfter` tells when a timer has to
call `WorkQueue.fire`; a timer whose delayed add has been replaced by an earlier one does nothing.
-/

namespace VolumeAttacher

/-- A queue of keys. -/
structure WorkQueue where
  /-- The keys that can be handed out, in order. -/
  ready : List String := []
  /-- The keys that have been added and not handed out since. -/
  dirty : List String := []
  processing : List String := []
  delayed : Table Nat := []
  closed : Bool := false
  backoff : KeyedBackoff
  signal : Signal := {}
deriving DecidableEq, Repr

namespace WorkQueue

/-- The empty queue with a policy for retries. -/
def empty (policy : RetryPolicy) : WorkQueue :=
  { backoff := { policy } }

/-- The number of keys that can be handed out. -/
def size (queue : WorkQueue) : Nat :=
  queue.ready.length

/-- Wakes one worker. -/
def wakeOne (queue : WorkQueue) : WorkQueue :=
  { queue with signal := queue.signal.wakeOne }

/-- Adds a key, unless it has been added already and not handed out since. -/
def add (queue : WorkQueue) (key : String) : WorkQueue :=
  if queue.closed || queue.dirty.contains key then queue
  else
    let marked := { queue with dirty := queue.dirty ++ [key] }
    if queue.processing.contains key then marked
    else wakeOne { marked with ready := queue.ready ++ [key] }

/-- Adds a key after a delay. The answer tells when a timer has to fire, if one is needed. -/
def addAfter (queue : WorkQueue) (now : Nat) (key : String) (delay : Nat) :
    Option Nat × WorkQueue :=
  if delay = 0 then (none, queue.add key)
  else if queue.closed then (none, queue)
  else
    let due := now + delay
    match Table.find? queue.delayed key with
    | some earlier =>
        if earlier ≤ due then (none, queue)
        else (some due, { queue with delayed := Table.insert queue.delayed key due })
    | none => (some due, { queue with delayed := Table.insert queue.delayed key due })

/-- Counts a failure of a key and adds it after the delay that follows. -/
def addLaterBy (growth : Growth) (queue : WorkQueue) (now : Nat) (key : String) :
    Option Nat × WorkQueue :=
  let (delay, backoff) := queue.backoff.failBy growth key
  { queue with backoff }.addAfter now key delay

def addLater (queue : WorkQueue) (now : Nat) (key : String) : Option Nat × WorkQueue :=
  queue.addLaterBy .inDouble now key

theorem addLaterBy_eq (growth : Growth) (queue : WorkQueue) (now : Nat) (key : String) :
    queue.addLaterBy growth now key =
      { queue with backoff := (queue.backoff.failBy growth key).2 }.addAfter now key
        (queue.backoff.failBy growth key).1 := rfl

theorem addLater_eq (queue : WorkQueue) (now : Nat) (key : String) :
    queue.addLater now key =
      { queue with backoff := (queue.backoff.fail key).2 }.addAfter now key
        (queue.backoff.fail key).1 := rfl

/-- The timer for a delayed add of a key that was due at some time fires. -/
def fire (queue : WorkQueue) (key : String) (due : Nat) : WorkQueue :=
  if Table.find? queue.delayed key = some due then
    { queue with delayed := Table.erase queue.delayed key }.add key
  else queue

/-- Forgets the failures of a key. -/
def forget (queue : WorkQueue) (key : String) : WorkQueue :=
  { queue with backoff := queue.backoff.forget key }

/-- The number of failures of a key since it was last forgotten. -/
def failures (queue : WorkQueue) (key : String) : Nat :=
  queue.backoff.failures key

/-- A worker is done with a key, which becomes ready again if it was added in the meantime. -/
def finish (queue : WorkQueue) (key : String) : WorkQueue :=
  let released := { queue with processing := queue.processing.filter (· ≠ key) }
  if queue.dirty.contains key && !queue.closed then
    wakeOne { released with ready := queue.ready ++ [key] }
  else released

/-- Takes no more keys, and wakes all workers. -/
def close (queue : WorkQueue) : WorkQueue :=
  { queue with closed := true, signal := queue.signal.wakeAll }

/-- What a worker gets. -/
inductive Handout where
  | key (key : String)
  | ended
deriving DecidableEq, Repr

/-- Hands out the first key that is ready, and wakes another worker if there are more. A closed
queue without keys has ended. -/
def handOut? (queue : WorkQueue) : Option (Handout × WorkQueue) :=
  match queue.ready with
  | key :: ready =>
      let taken :=
        { queue with
          ready
          dirty := queue.dirty.filter (· ≠ key)
          processing := queue.processing ++ [key] }
      some (.key key, if ready.isEmpty then taken else taken.wakeOne)
  | [] => if queue.closed then some (.ended, queue) else none

/-- Makes a worker wait for the signal of the queue; the answer tells whether it need not. -/
def arm (queue : WorkQueue) (worker : Nat) : Bool × WorkQueue :=
  let (taken, signal) := queue.signal.arm worker
  (taken, { queue with signal })

/-- Makes a worker wait no longer. -/
def disarm (queue : WorkQueue) (worker : Nat) : WorkQueue :=
  { queue with signal := queue.signal.disarm worker }

/-- A worker asks for a key. Before it looks it begins to wait, so that no key that is added in
between is missed; having found something it waits no longer. -/
def attempt (queue : WorkQueue) (worker : Nat) : Bool × Option Handout × WorkQueue :=
  let (taken, armed) := queue.arm worker
  match armed.handOut? with
  | some (handout, queue) => (taken, some handout, queue.disarm worker)
  | none => (taken, none, armed)

/-- A worker asks for a key until it gets something or has to wait. After taking a permit it looks
once more; there is only one permit, so that it then waits. -/
def take (queue : WorkQueue) (worker : Nat) : Option Handout × WorkQueue :=
  match queue.attempt worker with
  | (true, none, queue) => (queue.attempt worker).2
  | (_, result) => result

/-- A worker that was woken asks again. -/
def retake (queue : WorkQueue) (worker : Nat) : Option Handout × WorkQueue :=
  { queue with signal := queue.signal.resume worker }.take worker

end WorkQueue

end VolumeAttacher
