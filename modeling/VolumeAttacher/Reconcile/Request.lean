import VolumeAttacher.Csi.Attaching
import VolumeAttacher.Object.NodeId
import VolumeAttacher.Object.Publishing

/-!
# What reconciliation asks of its surroundings

Work on an object reads the caches of the cluster, writes objects, calls the driver, and schedules
further work. Each of these is one request, and an `Action` is a program of requests that may fail.

A write names the object that it was computed from and the object to be stored. It is refused if the
stored object is no longer in the version of the former.
-/

namespace VolumeAttacher.Reconcile

/-- The two queues of keys. -/
inductive QueueName where
  | attachments
  | volumes
deriving DecidableEq, Repr

/-- The text of a queue's name. -/
def QueueName.text : QueueName → String
  | attachments => "volumeattachment"
  | volumes => "persistentvolume"

/-- A request. -/
inductive Request where
  | csiNode (name : String)
  | node (name : String)
  | volume (name : String)
  | attachment (name : String)
  | attachments
  | volumes
  | secret (space name : String)
  /-- Write an attachment without its status. -/
  | writeAttachment (old new : VolumeAttachment)
  | writeStatus (old new : VolumeAttachment)
  | writeVolume (old new : PersistentVolume)
  | call (call : Csi.Call)
  | currentTime
  | enqueue (queue : QueueName) (key : String)
  /-- Count a failure of a key and add it to a queue after the delay that follows. -/
  | retry (queue : QueueName) (key : String)
  | forget (queue : QueueName) (key : String)
deriving DecidableEq

/-- The answer to a request. -/
def Request.Answer : Request → Type
  | csiNode _ => Option CsiNode
  | node _ => Option Node
  | volume _ => Option PersistentVolume
  | attachment _ => Option VolumeAttachment
  | attachments => List VolumeAttachment
  | volumes => List PersistentVolume
  | secret _ _ => Except Failure (Option Secret)
  | writeAttachment _ _ => Except Failure VolumeAttachment
  | writeStatus _ _ => Except Failure VolumeAttachment
  | writeVolume _ _ => Except Failure PersistentVolume
  | call driverCall => driverCall.Answer
  | currentTime => Timestamp
  | enqueue _ _ => Unit
  | retry _ _ => Unit
  | forget _ _ => Unit

/-- A program of requests. -/
abbrev Requests (α : Type) : Type :=
  Program Request Request.Answer α

/-- A program of requests that may fail. -/
abbrev Action (α : Type) : Type :=
  ExceptT Failure (Program Request Request.Answer) α

namespace Requests

/-- Makes one request. -/
def make (request : Request) : Requests request.Answer :=
  Program.request request

end Requests

namespace Action

/-- Makes one request whose answer is no failure. -/
def ask (request : Request) : Action request.Answer :=
  ExceptT.lift (Requests.make request)

/-- Looks up the drivers on a node. -/
def csiNode? (name : String) : Action (Option CsiNode) :=
  ask (.csiNode name)

/-- Looks up a node. -/
def node? (name : String) : Action (Option Node) :=
  ask (.node name)

/-- Looks up a volume. -/
def volume? (name : String) : Action (Option PersistentVolume) :=
  ask (.volume name)

/-- Looks up an attachment. -/
def attachment? (name : String) : Action (Option VolumeAttachment) :=
  ask (.attachment name)

/-- Lists the attachments. -/
def attachments : Action (List VolumeAttachment) :=
  ask .attachments

/-- Lists the volumes. -/
def volumes : Action (List PersistentVolume) :=
  ask .volumes

/-- Fetches a secret. -/
def secret? (space name : String) : Action (Option Secret) :=
  ExceptT.mk (Requests.make (.secret space name))

/-- Writes an attachment without its status. -/
def writeAttachment (old new : VolumeAttachment) : Action VolumeAttachment :=
  ExceptT.mk (Requests.make (.writeAttachment old new))

/-- Writes the status of an attachment. -/
def writeStatus (old new : VolumeAttachment) : Action VolumeAttachment :=
  ExceptT.mk (Requests.make (.writeStatus old new))

/-- Writes a volume. -/
def writeVolume (old new : PersistentVolume) : Action PersistentVolume :=
  ExceptT.mk (Requests.make (.writeVolume old new))

/-- Makes calls to the driver, with the outcome as a value. -/
def calls {α : Type} (calls : Csi.Calls α) : Action (Except Csi.Error α) :=
  ExceptT.lift (calls.run.embed Request.call fun _ answer => answer)

/-- Tells the time. -/
def currentTime : Action Timestamp :=
  ask .currentTime

/-- Adds a key to a queue. -/
def enqueue (queue : QueueName) (key : String) : Action Unit :=
  ask (.enqueue queue key)

/-- Counts a failure of a key and adds it to a queue after the delay that follows. -/
def retry (queue : QueueName) (key : String) : Action Unit :=
  ask (.retry queue key)

/-- Forgets the failures of a key. -/
def forget (queue : QueueName) (key : String) : Action Unit :=
  ask (.forget queue key)

/-- The outcome of an action as a value. -/
def outcome {α : Type} (action : Action α) : Action (Except Failure α) :=
  ExceptT.lift action.run

/-- Fails or goes on with a value. -/
def ofExcept {α : Type} (result : Except Failure α) : Action α :=
  ExceptT.mk (pure result)

end Action

end VolumeAttacher.Reconcile
