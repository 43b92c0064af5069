import VolumeAttacher.Queue.WorkQueue
import VolumeAttacher.Time.Agenda

/-!
# Runs of a queue

A queue with a clock, workers that each wait for one key, and one user who acts on the queue step by
step and may wait for a key too. Timers that fire at one time all act before the workers that they
wake, workers act in the order in which they were woken, and the user acts when no worker can.
-/

namespace VolumeAttacher.Simulation

/-- A queue with its clock and workers. -/
structure QueueRun where
  queue : WorkQueue
  agenda : Agenda String := {}
  /-- The names of the workers, the first one for number 1. -/
  workers : List String := []
  /-- What workers got, the first one first. -/
  received : List (String × WorkQueue.Handout) := []

namespace QueueRun

def user : Nat := 0

/-- The run with an empty queue. -/
def initial (policy : RetryPolicy) : QueueRun where
  queue := .empty policy

/-- Notes what a worker got, if it got something. -/
def receive (run : QueueRun) (worker : Nat) (handout : Option WorkQueue.Handout) : QueueRun :=
  match handout, run.workers[worker - 1]? with
  | some handout, some name => { run with received := run.received ++ [(name, handout)] }
  | _, _ => run

def wake (run : QueueRun) (worker : Nat) : QueueRun :=
  let (handout, queue) := run.queue.retake worker
  { run with queue }.receive worker handout

def wokenWorkers (run : QueueRun) : List Nat :=
  (run.queue.signal.woken.map Prod.fst).filter (· ≠ user)

/-- Lets woken workers act until none is left, at most so many times. -/
def settleWithin : Nat → QueueRun → QueueRun
  | 0, run => run
  | times + 1, run =>
      match run.wokenWorkers with
      | [] => run
      | worker :: _ => settleWithin times (run.wake worker)

/-- Lets woken workers act until none is left. A worker that gets a key wakes at most one other and
leaves, so that twice the number of those who wait suffices. -/
def settle (run : QueueRun) : QueueRun :=
  let signal := run.queue.signal
  run.settleWithin (2 * (signal.woken.length + signal.waiting.length) + 1)

def act (run : QueueRun) (action : WorkQueue → WorkQueue) : QueueRun :=
  { run with queue := action run.queue }.settle

def actLater (run : QueueRun) (key : String)
    (action : WorkQueue → Nat → Option Nat × WorkQueue) : QueueRun :=
  let (due, queue) := action run.queue run.agenda.now
  let run := { run with queue }
  settle <|
    match due with
    | none => run
    | some due => { run with agenda := run.agenda.schedule due key }

def fire (fired : List (Nat × String)) (run : QueueRun) : QueueRun :=
  settle <| fired.foldl
    (fun run timer => { run with queue := run.queue.fire timer.2 timer.1 }) run

def passTo (run : QueueRun) (time : Nat) : QueueRun :=
  Agenda.pass agenda (fun agenda run => { run with agenda }) fire time run

def elapse (run : QueueRun) (duration : Nat) : QueueRun :=
  run.passTo (run.agenda.now + duration)

def startWorker (run : QueueRun) (name : String) : QueueRun :=
  let run := { run with workers := run.workers ++ [name] }
  let worker := run.workers.length
  let (handout, queue) := run.queue.take worker
  ({ run with queue }.receive worker handout).settle

/-- The user waits no longer. -/
def giveUp (run : QueueRun) : QueueRun :=
  { run with queue := run.queue.disarm user }.settle

/-- The user asks for a key without waiting. -/
def poll (run : QueueRun) : Option WorkQueue.Handout × QueueRun :=
  let (handout, queue) := run.queue.take user
  match handout with
  | some handout => (some handout, { run with queue }.settle)
  | none => (none, { run with queue }.giveUp)

/-- The user, who waits, gets a key if it is woken before a time, at most so many times. -/
def awaitWithin (limit : Nat) : Nat → QueueRun → Option WorkQueue.Handout × QueueRun
  | 0, run => (none, run)
  | times + 1, run =>
      match run.agenda.next? with
      | none => (none, run)
      | some time =>
          if limit ≤ time then (none, run)
          else
            let run := run.passTo time
            if (run.queue.signal.woken.map Prod.fst).contains user then
              let (handout, queue) := run.queue.retake user
              let run := { run with queue }
              match handout with
              | some handout => (some handout, run.settle)
              | none => awaitWithin limit times run.settle
            else awaitWithin limit times run

/-- The user waits for a key for some time. If the time is up when a key is added, the user has
given up before. -/
def await (run : QueueRun) (duration : Nat) : Option WorkQueue.Handout × QueueRun :=
  let limit := run.agenda.now + duration
  let (handout, queue) := run.queue.take user
  let run := { run with queue }
  match handout with
  | some handout => (some handout, run.settle)
  | none =>
      match awaitWithin limit (Duration.wholeMillis duration + 1) run.settle with
      | (some handout, run) => (some handout, run)
      | (none, run) => (none, run.giveUp.passTo limit)

end QueueRun

end VolumeAttacher.Simulation
