import VolumeAttacher.Reconcile.Handler
import VolumeAttacher.Simulation.World

/-!
# Sessions

A session is a sequence of calls on one handler in a simulated world, each running to its end before
the next one starts.
-/

namespace VolumeAttacher.Simulation

open Reconcile (Handler QueueName)

/-- A handler in its world. -/
structure Session where
  world : World
  handler : Handler

namespace Session

def perform {α : Type} (session : Session) (action : Reconcile.Action α) :
    Except Failure α × Session :=
  let (result, world) := session.world.perform action
  (result, { session with world })

def syncAttachment (session : Session) (attachment : VolumeAttachment) :
    Except Failure Unit × Session :=
  session.perform (session.handler.syncAttachment attachment)

def syncVolume (session : Session) (volume : PersistentVolume) :
    Except Failure Unit × Session :=
  session.perform (session.handler.syncVolume volume)

def reconcileAll (session : Session) : Except Failure Unit × Session :=
  session.perform session.handler.reconcileAll

def giveQueues (session : Session) : Session :=
  { session with handler := session.handler.withQueues }

/-- Takes the ready keys of a queue, at most so many, and finishes each at once. -/
def drainQueue : Nat → WorkQueue → List String × WorkQueue
  | 0, queue => ([], queue)
  | keys + 1, queue =>
      match queue.handOut? with
      | some (.key key, queue) =>
          let (rest, queue) := drainQueue keys (queue.finish key)
          (key :: rest, queue)
      | _ => ([], queue)

def drain (session : Session) (name : QueueName) : List String × Session :=
  let queue := session.world.queue name
  let (keys, queue) := drainQueue queue.size queue
  (keys, { session with world := session.world.setQueue name queue })

def elapse (session : Session) (duration : Nat) : Session :=
  { session with world := session.world.elapse duration }

end Session

end VolumeAttacher.Simulation
