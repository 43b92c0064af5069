import VolumeAttacher.Cluster.Store
import VolumeAttacher.Reconcile.Handler

/-!
# From changes to work

Changes of objects are turned into keys for the queues, and a key that is taken from a queue is
turned into work on the object that it names, as it is in the cache by then.
-/

namespace VolumeAttacher.Reconcile

/-- A key for a queue. -/
structure Task where
  queue : QueueName
  key : String
deriving DecidableEq, Repr

namespace Task

/-- The work that follows from a change of an attachment. When one is gone, its volume may have
waited for that. -/
def ofAttachmentChange? : Change VolumeAttachment → Option Task
  | .added attachment => some ⟨.attachments, attachment.name⟩
  | .updated old new => if new.isChangeOf old then some ⟨.attachments, new.name⟩ else none
  | .deleted attachment => attachment.volumeName?.map (⟨.volumes, ·⟩)

/-- The work that follows from a change of a volume. -/
def ofVolumeChange? : Change PersistentVolume → Option Task
  | .added volume => some ⟨.volumes, volume.name⟩
  | .updated _ new => some ⟨.volumes, new.name⟩
  | .deleted _ => none

/-- The work on everything. -/
def all (attachments : List VolumeAttachment) (volumes : List PersistentVolume) : List Task :=
  attachments.map (⟨.attachments, ·.name⟩) ++ volumes.map (⟨.volumes, ·.name⟩)

end Task

/-- A handler that works for a driver. -/
structure Controller where
  driver : String
  handler : Handler
deriving DecidableEq

namespace Controller

/-- Works on the attachment of a name. Attachments of other drivers are left alone. -/
def syncAttachment (controller : Controller) (name : String) : Action Unit := do
  match ← Action.attachment? name with
  | none => Action.forget .attachments name
  | some attachment =>
      if attachment.spec.attacher = controller.driver then
        controller.handler.syncAttachment attachment

/-- Works on the volume of a name. -/
def syncVolume (controller : Controller) (name : String) : Action Unit := do
  match ← Action.volume? name with
  | none => Action.forget .volumes name
  | some volume => controller.handler.syncVolume volume

/-- Works on the object that a task names. -/
def sync (controller : Controller) (task : Task) : Action Unit :=
  match task.queue with
  | .attachments => controller.syncAttachment task.key
  | .volumes => controller.syncVolume task.key

end Controller

end VolumeAttacher.Reconcile
