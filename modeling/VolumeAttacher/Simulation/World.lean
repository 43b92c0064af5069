import VolumeAttacher.Cluster.Store
import VolumeAttacher.Queue.WorkQueue
import VolumeAttacher.Reconcile.Attachment
import VolumeAttacher.Simulation.Script
import VolumeAttacher.Time.Agenda

/-!
# A simulated cluster and driver

The surroundings in which reconciliation can be tried out: the store of the cluster, which the
caches always agree with; a driver that gives the answers of a script; the two queues; and a clock.
Answers to requests are given by `World.answer`, and the calls and writes that were made are kept in
order.
-/

namespace VolumeAttacher.Simulation

open Reconcile (QueueName Request)

/-- A write that was tried. -/
inductive WriteRecord where
  /-- A write of an attachment without its status. -/
  | attachment (name : String) (outcome : Except Refusal VolumeAttachment)
  | status (name : String) (outcome : Except Refusal VolumeAttachment)
  | volume (name : String) (outcome : Except Refusal PersistentVolume)

/-- What a timer is for. -/
inductive Alarm where
  | delayedAdd (queue : QueueName) (key : String)
  | resync
  | reconcile
deriving DecidableEq, Repr

/-- A change that the store tells those who watch it. -/
inductive Event where
  | attachment (change : Change VolumeAttachment)
  | volume (change : Change PersistentVolume)

def Event.stream : Event → QueueName
  | attachment _ => .attachments
  | volume _ => .volumes

/-- The surroundings of reconciliation. -/
structure World where
  store : Store := {}
  script : Script := {}
  attachmentQueue : WorkQueue
  volumeQueue : WorkQueue
  agenda : Agenda Alarm := {}
  /-- The calls that the driver has received, the first one first. -/
  calls : List Csi.Call := []
  /-- The writes that were tried, the first one first. -/
  writes : List WriteRecord := []
  /-- The changes by these writes, the first one first. -/
  events : List Event := []

namespace World

/-- A world with empty queues and a policy for retries. -/
def initial (policy : RetryPolicy) : World where
  attachmentQueue := .empty policy
  volumeQueue := .empty policy

def clockStart : Int := 1735689600

def date (world : World) : Timestamp where
  seconds := clockStart + Duration.wholeSeconds world.agenda.now
  nanoseconds := world.agenda.now % Duration.second

def queue (world : World) : QueueName → WorkQueue
  | .attachments => world.attachmentQueue
  | .volumes => world.volumeQueue

def setQueue (world : World) (name : QueueName) (queue : WorkQueue) : World :=
  match name with
  | .attachments => { world with attachmentQueue := queue }
  | .volumes => { world with volumeQueue := queue }

def enqueue (world : World) (name : QueueName) (key : String) : World :=
  world.setQueue name ((world.queue name).add key)

/-- Counts a failure of a key and adds it to a queue after the delay that follows. -/
def retry (world : World) (name : QueueName) (key : String) : World :=
  let added := (world.queue name).addLater world.agenda.now key
  { world.setQueue name added.2 with
    agenda := added.1.elim world.agenda fun due =>
      world.agenda.schedule due (.delayedAdd name key) }

def forget (world : World) (name : QueueName) (key : String) : World :=
  world.setQueue name ((world.queue name).forget key)

def failureOf (kind : ObjectKind) (name : String) : Refusal → Failure
  | .notFound => .notFound kind name
  | .conflict => .conflict name
  | .forbidden => .cluster (some 403)
  | .stale => .conflict name

def written {α : Type} (kind : ObjectKind) (name : String) (outcome : Store.Outcome α) :
    Except Failure α :=
  match outcome with
  | .ok (object, _) => .ok object
  | .error refusal => .error (failureOf kind name refusal)

def changeOf {α : Type} (outcome : Store.Outcome α) : List (Change α) :=
  match outcome with
  | .ok (_, change) => [change]
  | .error _ => []

def readSecret (store : Store) (space name : String) : Except Failure (Option Secret) :=
  if store.secretsUnreadable then .error (.cluster (some 403)) else .ok (store.secret? space name)

/-- Notes a write that was tried, with the change that it has made. -/
def logWrite (world : World) (record : WriteRecord) (events : List Event) (store : Store) :
    World :=
  { world with store, writes := world.writes ++ [record], events := world.events ++ events }

def answer : (request : Request) → World → request.Answer × World
  | .csiNode name, world => (Table.find? world.store.csiNodes name, world)
  | .node name, world => (Table.find? world.store.nodes name, world)
  | .volume name, world => (world.store.volumes.find? name, world)
  | .attachment name, world => (world.store.attachments.find? name, world)
  | .attachments, world => (Table.values world.store.attachments.objects, world)
  | .volumes, world => (Table.values world.store.volumes.objects, world)
  | .secret space name, world => (readSecret world.store space name, world)
  | .writeAttachment old new, world =>
      let (outcome, store) := world.store.writeAttachment old new
      (written .volumeAttachment old.name outcome,
        world.logWrite (.attachment old.name (outcome.map Prod.fst))
          ((changeOf outcome).map .attachment) store)
  | .writeStatus old new, world =>
      let (outcome, store) := world.store.writeStatus old new
      (written .volumeAttachment old.name outcome,
        world.logWrite (.status old.name (outcome.map Prod.fst))
          ((changeOf outcome).map .attachment) store)
  | .writeVolume old new, world =>
      let (outcome, store) := world.store.writeVolume old new
      (written .persistentVolume old.name outcome,
        world.logWrite (.volume old.name (outcome.map Prod.fst))
          ((changeOf outcome).map .volume) store)
  | .call call, world =>
      let (answer, script) := world.script.answer call
      (answer, { world with script, calls := world.calls ++ [call] })
  | .currentTime, world => (world.date, world)
  | .enqueue name key, world => ((), world.enqueue name key)
  | .retry name key, world => ((), world.retry name key)
  | .forget name key, world => ((), world.forget name key)

def perform {α : Type} (world : World) (action : Reconcile.Action α) : Except Failure α × World :=
  Program.run answer action.run world

def fire (world : World) (due : Nat) : Alarm → World
  | .delayedAdd name key => world.setQueue name ((world.queue name).fire key due)
  | .resync | .reconcile => world

def elapse (world : World) (duration : Nat) : World :=
  Agenda.pass World.agenda (fun agenda world => { world with agenda })
    (fun fired world => fired.foldl (fun world timer => world.fire timer.1 timer.2) world)
    (world.agenda.now + duration) world

end World

end VolumeAttacher.Simulation
