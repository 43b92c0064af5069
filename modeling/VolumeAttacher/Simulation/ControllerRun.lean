import VolumeAttacher.Metrics
import VolumeAttacher.Reconcile.Controller
import VolumeAttacher.Simulation.Choice
import VolumeAttacher.Simulation.World

/-!
# Runs of the controller

The controller in a simulated world. First it waits until the caches are filled. Then an intake
turns changes into keys, and for each queue some workers take keys and work on them. Everything that
can act stands in one line: whoever is at its head acts until it has to wait, and those that it
wakes join at the end. Timers that fire at one time all act before those that they wake. When the
run is stopped the queues are closed; it has ended when all workers have gone.
-/

namespace VolumeAttacher.Simulation

open Reconcile (Controller QueueName Task)

/-- Who acts in a run. -/
inductive Actor where
  | intake
  | worker (queue : QueueName) (number : Nat)
deriving DecidableEq, Repr

/-- How filling the caches goes. -/
inductive CacheSync where
  | filled
  | failed (kind : ObjectKind)
  | never
deriving DecidableEq, Repr

/-- How far a run has come. -/
inductive RunStage where
  /-- The caches are not filled. -/
  | starting
  | running
  | stopping
  | ended (result : Except Failure Unit)

/-- How often everything is looked at again, where zero stands for never. -/
structure Periods where
  resync : Nat := 0
  reconcile : Nat := 0
deriving DecidableEq, Repr

/-- A controller at work. -/
structure ControllerRun where
  world : World
  controller : Controller
  workers : Nat := 1
  periods : Periods := {}
  watching : Bool := false
  stage : RunStage := .starting
  cancelled : Bool := false
  /-- Who can act, in order. -/
  line : List Actor := []
  /-- The streams of changes that have been closed, by the queues of their objects. -/
  closedStreams : List QueueName := []
  changes : List Event := []
  gone : Nat := 0
  metrics : Metrics := {}

namespace ControllerRun

/-- The actors that were woken. A worker's number in the signal of its queue is its number here. -/
def woken (run : ControllerRun) (queue : QueueName) : List Actor :=
  (run.world.queue queue).signal.woken.map fun entry => .worker queue entry.1

/-- Puts actors that are not in the line at its end. -/
def join (run : ControllerRun) (actors : List Actor) : ControllerRun :=
  { run with line := run.line ++ actors.filter fun actor => !run.line.contains actor }

def joinWoken (run : ControllerRun) : ControllerRun :=
  (run.join (run.woken .attachments)).join (run.woken .volumes)

/-- Changes the world, and puts those that this wakes at the end of the line. -/
def update (run : ControllerRun) (change : World → World) : ControllerRun :=
  joinWoken { run with world := change run.world }

def isRunning (run : ControllerRun) : Bool :=
  match run.stage with
  | .running => true
  | _ => false

def hasEnded (run : ControllerRun) : Bool :=
  match run.stage with
  | .ended _ => true
  | _ => false

/-- Puts the intake of a run that is on at the end of the line. -/
def wakeIntake (run : ControllerRun) : ControllerRun :=
  if run.isRunning then run.join [Actor.intake] else run

/-- Closes a stream of changes, and wakes the intake. -/
def closeStream (run : ControllerRun) (stream : QueueName) : ControllerRun :=
  { run with closedStreams := stream :: run.closedStreams }.wakeIntake

/-- Tells the intake of changes. Those of a closed stream are lost. -/
def tell (run : ControllerRun) (changes : List Event) : ControllerRun :=
  let changes := changes.filter fun change => !run.closedStreams.contains change.stream
  if run.hasEnded || changes.isEmpty then run
  else { run with changes := run.changes ++ changes }.wakeIntake

def addTasks (run : ControllerRun) (tasks : List Task) : ControllerRun :=
  tasks.foldl (fun run task => run.update (·.enqueue task.queue task.key)) run

def resync (run : ControllerRun) : ControllerRun :=
  let store := run.world.store
  run.addTasks
    (Task.all (Table.values store.attachments.objects) (Table.values store.volumes.objects))

/-- Runs an action; the changes that it makes are told to the intake if it is watching. -/
def perform (run : ControllerRun) (action : Reconcile.Action Unit) :
    Except Failure Unit × ControllerRun :=
  let (result, world) := run.world.perform action
  let run := run.update fun _ => { world with events := [] }
  (result, if run.watching then run.tell world.events else run)

/-- Sets the timer of a period, if there is one. -/
def setTicker (run : ControllerRun) (alarm : Alarm) (period : Nat) : ControllerRun :=
  if period = 0 then run
  else
    let agenda := run.world.agenda
    { run with world := { run.world with agenda := agenda.schedule (agenda.now + period) alarm } }

/-- The workers, in the order in which they start. -/
def crew (workers : Nat) : List Actor :=
  (List.range workers).flatMap fun number =>
    [.worker .attachments number, .worker .volumes number]

def start (run : ControllerRun) : ControllerRun :=
  let run := { run with stage := .running }.join (crew run.workers)
  (run.setTicker .resync run.periods.resync).setTicker .reconcile run.periods.reconcile

def awaitCaches (run : ControllerRun) : CacheSync → ControllerRun
  | .filled => run.start
  | .failed kind => { run with stage := .ended (.error (.cacheSync kind)) }
  | .never => run

def allGone (run : ControllerRun) : Bool :=
  run.gone = 2 * run.workers

/-- Closes the queues. A run without workers has ended then. -/
def close (run : ControllerRun) : ControllerRun :=
  let stage := if run.allGone then RunStage.ended (.ok ()) else .stopping
  { run with stage }.update fun world =>
    { world with
      attachmentQueue := world.attachmentQueue.close
      volumeQueue := world.volumeQueue.close }

def cancel (run : ControllerRun) : ControllerRun :=
  let run := { run with cancelled := true }
  match run.stage with
  | .starting => { run with stage := .ended (.ok ()) }
  | .running => run.join [Actor.intake]
  | .stopping | .ended _ => run

/-- Notes that a worker has gone. With the last one of a stopped run the run has ended. -/
def leave (run : ControllerRun) : ControllerRun :=
  let run := { run with gone := run.gone + 1 }
  if run.allGone then { run with stage := .ended (.ok ()) } else run

def rest (run : ControllerRun) : ControllerRun :=
  { run with line := run.line.drop 1 }

def work (run : ControllerRun) (task : Task) : ControllerRun :=
  let (result, run) := run.perform (run.controller.sync task)
  let sample := Sample.ofReconcile task.queue.text result.isOk
  { run with metrics := run.metrics.increment sample }.update fun world =>
    world.setQueue task.queue ((world.queue task.queue).finish task.key)

/-- A worker at the head of the line asks for a key and works on it. -/
def actWorker (run : ControllerRun) (queue : QueueName) (number : Nat) : ControllerRun :=
  let (handout, remaining) := (run.world.queue queue).retake number
  let run := run.update (·.setQueue queue remaining)
  match handout with
  | none => run.rest
  | some .ended => run.rest.leave
  | some (.key key) => run.work ⟨queue, key⟩

/-- What the intake waits for. -/
inductive Intake where
  | cancelled
  | change (change : Event)

/-- The cancellation stays pending until it comes. -/
def cancelBranch (run : ControllerRun) : Branch Intake :=
  if run.cancelled then .ready .cancelled else .pending

/-- Whether a stream has been closed and its changes have been taken in. -/
def isDrained (run : ControllerRun) (stream : QueueName) : Bool :=
  run.closedStreams.contains stream && run.changes.all (·.stream != stream)

/-- The changes of both streams are taken in as they come. -/
def streamBranch (run : ControllerRun) (stream : QueueName) : Branch Intake :=
  match run.changes.head?.filter (·.stream = stream) with
  | some change => .ready (.change change)
  | none => if run.isDrained stream then .disabled else .pending

def branches (run : ControllerRun) : List (Branch Intake) :=
  [run.cancelBranch, run.streamBranch .attachments, run.streamBranch .volumes]

def choice (run : ControllerRun) : Choice Intake :=
  .of run.branches

/-- Takes in the first of the changes. -/
def takeIn (run : ControllerRun) (change : Event) : ControllerRun :=
  let task := match change with
    | .attachment change => Task.ofAttachmentChange? change
    | .volume change => Task.ofVolumeChange? change
  { run with changes := run.changes.tail }.addTasks task.toList

/-- The intake at the head of the line takes in one change, or closes the queues. Otherwise, if
there is nothing to wait for, it would close them as well. -/
def actIntake (run : ControllerRun) : ControllerRun :=
  match run.choice with
  | .taken .cancelled => run.rest.close
  | .taken (.change change) => run.takeIn change
  | .waiting => run.rest
  | .otherwise => run.rest.close

def act (run : ControllerRun) : ControllerRun :=
  match run.line with
  | [] => run
  | .intake :: _ => run.actIntake
  | .worker queue number :: _ => run.actWorker queue number

/-- Lets everyone act until all wait, at most so many times. -/
def settleWithin : Nat → ControllerRun → ControllerRun
  | 0, run => run
  | times + 1, run => if run.line.isEmpty then run else settleWithin times run.act

def actsAtOnce : Nat := 1000000

/-- Lets everyone act until all wait. -/
def settle (run : ControllerRun) : ControllerRun :=
  run.settleWithin actsAtOnce

def reconcileAll (run : ControllerRun) : ControllerRun :=
  (run.perform run.controller.handler.reconcileAll).2

def fire (run : ControllerRun) (due : Nat) : Alarm → ControllerRun
  | .delayedAdd queue key => run.update (·.fire due (.delayedAdd queue key))
  | .resync => if run.isRunning then (run.setTicker .resync run.periods.resync).resync else run
  | .reconcile =>
      if run.isRunning then (run.setTicker .reconcile run.periods.reconcile).reconcileAll else run

def elapse (run : ControllerRun) (duration : Nat) : ControllerRun :=
  Agenda.pass (fun run : ControllerRun => run.world.agenda)
    (fun agenda run => { run with world := { run.world with agenda } })
    (fun fired run =>
      (fired.foldl (fun run timer => run.fire timer.1 timer.2) run).settle)
    (run.world.agenda.now + duration) run

end ControllerRun

end VolumeAttacher.Simulation
