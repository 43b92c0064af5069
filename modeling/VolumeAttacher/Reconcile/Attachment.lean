import VolumeAttacher.Csi.DriverName
import VolumeAttacher.Reconcile.Request

/-!
# Reconciling attachments and volumes with a driver

An attachment and its volume get the attacher's finalizer before the driver is asked to publish the
volume, and the attachment keeps it until the driver has said that the volume is unpublished. Work
on an attachment attaches its volume, or detaches it if the deletion of the attachment has been
asked for; what goes wrong is recorded in the status of the attachment, and the work is tried again
later.

Work on a volume takes the finalizer off once the volume is to be deleted, or is no longer the
driver's, and no attachment of it is recorded as attached. A sweep over all attachments marks those
as detached that the driver does not list as published.
-/

namespace VolumeAttacher.Reconcile

/-- What a reconciler is set up with. -/
structure Reconciler where
  driver : String
  /-- The file system for volumes that name none. -/
  defaultFileSystem : String := ""
  /-- Whether the driver heeds that a volume is to be published read-only. -/
  readonlyPublish : Bool := false
  listPublished : Bool := false
  /-- The greatest number of entries in a page of a listing. -/
  maxEntries : Int32 := 0
  /-- The greatest number of pages of a listing. -/
  pageLimit : Nat := 0x100000000
  ready : Bool := true
deriving DecidableEq

/-- What an attachment's work is about. -/
inductive Operation where
  | attach
  | detach
deriving DecidableEq, Repr

namespace Operation

/-- The status with an error recorded. -/
def recorded (operation : Operation) (error : VolumeError) (status : AttachmentStatus) :
    AttachmentStatus :=
  match operation with
  | attach => { status with attachError := some error }
  | detach => { status with detachError := some error }

end Operation

/-- Saves a failure in the status of an attachment. That this fails too does not matter. -/
def record (operation : Operation) (attachment : VolumeAttachment) (failure : Failure) :
    Action Unit := do
  let time ← Action.currentTime
  let error : VolumeError := { message := some failure.message, time := some time }
  let _ ← (Action.writeStatus attachment
    (attachment.withStatus (operation.recorded error))).outcome

/-- Fails, after saving the failure in the status of an attachment. -/
def failWith {α : Type} (operation : Operation) (attachment : VolumeAttachment)
    (failure : Failure) : Action α := do
  record operation attachment failure
  throw failure

/-- Runs an action and saves its failure, if it fails, in the status of an attachment. -/
def recording {α : Type} (operation : Operation) (attachment : VolumeAttachment)
    (action : Action α) : Action α := do
  match ← action.outcome with
  | .ok result => return result
  | .error failure => failWith operation attachment failure

namespace Reconciler

/-- The finalizer of the attacher for the driver. -/
def finalizer (reconciler : Reconciler) : String :=
  DriverName.finalizer reconciler.driver

/-- Whether an attachment is addressed to the driver. -/
def isAddressee (reconciler : Reconciler) (attachment : VolumeAttachment) : Bool :=
  attachment.spec.attacher = reconciler.driver

/-- The driver's name of a node: as registered on the node, else as annotated on the node, else as
given. -/
def nodeId (reconciler : Reconciler) (nodeName : String) (kept : Option String) :
    Action (Except Failure String) := do
  let registered ← Action.csiNode? nodeName
  match registered.bind fun node => node.idFor? reconciler.driver with
  | some id => return .ok id
  | none =>
      let annotated : Except Failure String :=
        match ← Action.node? nodeName with
        | some node => (node.idFor reconciler.driver).mapError .nodeId
        | none => .error (.notFound .node nodeName)
      match annotated, kept with
      | .ok id, _ => return .ok id
      | .error _, some id => return .ok id
      | .error failure, none => return .error failure

/-- The driver's name of the node of an attachment that may be attached, which the attachment keeps
in case the node is gone. -/
def attachedNodeId (reconciler : Reconciler) (attachment : VolumeAttachment) :
    Action (Except Failure String) :=
  reconciler.nodeId attachment.spec.nodeName
    (attachment.metadata.annotation? attachedNodeIdAnnotation)

/-- The secrets for publishing a volume. -/
def secrets (volume : PersistentVolume) : Action (Table String) := do
  match volume.publishSecret? with
  | none => return []
  | some reference =>
      let space := reference.space.getD ""
      let name := reference.name.getD ""
      match ← Action.secret? space name with
      | some secret => return secret.texts
      | none => throw (.notFound .secret s!"{space}/{name}")

/-- Puts the finalizer on a volume. -/
def protectVolume (reconciler : Reconciler) (volume : PersistentVolume) : Action Unit := do
  if !volume.metadata.hasFinalizer reconciler.finalizer then
    let _ ← Action.writeVolume volume
      { volume with metadata := volume.metadata.addFinalizer reconciler.finalizer }

/-- The attachment with the finalizer and, if it is known, the driver's name of the node. -/
def protectedAttachment (reconciler : Reconciler) (attachment : VolumeAttachment)
    (nodeId : Except Failure String) : VolumeAttachment :=
  let metadata := attachment.metadata.addFinalizer reconciler.finalizer
  match nodeId with
  | .ok id => { attachment with metadata := metadata.annotate attachedNodeIdAnnotation id }
  | .error _ => { attachment with metadata }

/-- Puts the finalizer on an attachment and returns the attachment as stored. -/
def protectAttachment (reconciler : Reconciler) (attachment : VolumeAttachment)
    (nodeId : Except Failure String) : Action VolumeAttachment := do
  if attachment.metadata.hasFinalizer reconciler.finalizer then return attachment
  else
    Action.writeAttachment attachment (reconciler.protectedAttachment attachment nodeId)

/-- What attaching a volume to a node needs. -/
def attachRequest (reconciler : Reconciler) (volume : PersistentVolume)
    (nodeId : Except Failure String) : Action Csi.AttachRequest := do
  let nodeId ← Action.ofExcept nodeId
  let (volumeId, readOnly) ← Action.ofExcept (volume.handle.mapError .invalidVolume)
  let capability ← Action.ofExcept
    ((volume.capability reconciler.defaultFileSystem).mapError .invalidVolume)
  let secrets ← secrets volume
  return {
    volumeId
    nodeId
    readOnly := readOnly && reconciler.readonlyPublish
    capability
    volumeContext := volume.attributes
    secrets }

/-- The status of an attachment whose volume has been attached. -/
def attachedStatus (publishContext : Table String) (status : AttachmentStatus) :
    AttachmentStatus :=
  { status with
    attached := true
    attachError := none
    attachmentMetadata := if publishContext.isEmpty then none else some publishContext }

/-- Takes an error of attaching off an attachment that is attached. -/
def clearAttachError (attachment : VolumeAttachment) : Action Unit := do
  if attachment.status.any fun status => status.attachError.isSome then
    let _ ← Action.writeStatus attachment
      (attachment.mapStatus fun status => { status with attachError := none })

/-- Attaches the volume of an attachment that is protected and not yet attached. -/
def publish (reconciler : Reconciler) (attachment : VolumeAttachment)
    (volume : PersistentVolume) (nodeId : Except Failure String) : Action Unit := do
  let request ← recording .attach attachment (reconciler.attachRequest volume nodeId)
  match ← Action.calls (Csi.attach request) with
  | .error error => failWith .attach attachment (.csi error)
  | .ok publishContext =>
      let _ ← Action.writeStatus attachment
        (attachment.withStatus (attachedStatus publishContext))

/-- Attaches the volume of an attachment. A volume of another driver is left alone. -/
def attach (reconciler : Reconciler) (attachment : VolumeAttachment) : Action Unit := do
  match attachment.volumeName? with
  | none => failWith .attach attachment (.invalidVolume (.noVolume attachment.name))
  | some volumeName =>
      match ← Action.volume? volumeName with
      | none => failWith .attach attachment (.notFound .persistentVolume volumeName)
      | some volume =>
          if !volume.isOwnedBy reconciler.driver then return ()
          else if volume.metadata.isDeleting then
            failWith .attach attachment (.invalidVolume (.deleting volumeName))
          else
            recording .attach attachment (reconciler.protectVolume volume)
            let nodeId ← reconciler.nodeId attachment.spec.nodeName none
            let attachment ← recording .attach attachment
              (reconciler.protectAttachment attachment nodeId)
            if attachment.isAttached then clearAttachError attachment
            else reconciler.publish attachment volume nodeId

/-- The driver's name of a volume and the secrets for it. -/
def detachInputs (volumeName : String) : Action (String × Table String) := do
  match ← Action.volume? volumeName with
  | none => throw (.notFound .persistentVolume volumeName)
  | some volume =>
      let (volumeId, _) ← Action.ofExcept (volume.handle.mapError .invalidVolume)
      let secrets ← secrets volume
      return (volumeId, secrets)

/-- The status of an attachment whose volume has been detached. -/
def detachedStatus (status : AttachmentStatus) : AttachmentStatus :=
  { status with attached := false, detachError := none, attachmentMetadata := none }

/-- Whether a status says anything that is not so once the volume is detached. -/
def isStale (status : AttachmentStatus) : Bool :=
  status.attached || status.detachError.isSome || status.attachmentMetadata.isSome

/-- Clears the status of an attachment, and then takes the finalizer off. -/
def markDetached (reconciler : Reconciler) (attachment : VolumeAttachment) : Action Unit := do
  let cleared ←
    if attachment.status.any isStale then
      Action.writeStatus attachment (attachment.mapStatus detachedStatus)
    else pure attachment
  let _ ← Action.writeAttachment cleared
    { cleared with metadata := cleared.metadata.removeFinalizer reconciler.finalizer }

/-- Detaches the volume of an attachment that carries the finalizer. The volume is worked on
afterwards, since it may have waited for this. -/
def detach (reconciler : Reconciler) (attachment : VolumeAttachment) : Action Unit := do
  if !attachment.metadata.hasFinalizer reconciler.finalizer then return ()
  else
    match ← reconciler.attachedNodeId attachment with
    | .error failure => failWith .detach attachment failure
    | .ok nodeId =>
        match attachment.volumeName? with
        | none => failWith .detach attachment (.invalidVolume (.noVolume attachment.name))
        | some volumeName =>
            let (volumeId, secrets) ← recording .detach attachment (detachInputs volumeName)
            match ← Action.calls (Csi.detach volumeId nodeId secrets) with
            | .error error =>
                if error.isFinal then
                  reconciler.markDetached attachment
                  Action.enqueue .volumes volumeName
                else failWith .detach attachment (.csi error)
            | .ok () =>
                reconciler.markDetached attachment
                Action.enqueue .volumes volumeName

/-- Whether an attachment of a volume is recorded as attached. -/
def isInUse (volumeName : String) (attachments : List VolumeAttachment) : Bool :=
  attachments.any fun attachment =>
    attachment.volumeName? = some volumeName && attachment.isAttached

/-- Takes the finalizer off a volume that needs it no more. -/
def releaseVolume (reconciler : Reconciler) (volume : PersistentVolume) : Action Unit := do
  if !volume.metadata.hasFinalizer reconciler.finalizer then return ()
  else if !volume.metadata.isDeleting && volume.isOwnedBy reconciler.driver then return ()
  else if isInUse volume.name (← Action.attachments) then return ()
  else
    let _ ← Action.writeVolume volume
      { volume with metadata := volume.metadata.removeFinalizer reconciler.finalizer }

/-- Whether a sweep looks at an attachment: it is the driver's, attached and not to be deleted. -/
def isSwept (reconciler : Reconciler) (attachment : VolumeAttachment) : Bool :=
  reconciler.isAddressee attachment && attachment.isAttached && !attachment.isDeleting

/-- The driver's names of the volume and of the node of an attachment, as far as they are known. -/
def publication? (reconciler : Reconciler) (attachment : VolumeAttachment) :
    Action (Option (String × String)) := do
  match attachment.volumeName? with
  | none => return none
  | some volumeName =>
      match ← Action.volume? volumeName with
      | none => return none
      | some volume =>
          match volume.handle with
          | .error _ => return none
          | .ok (volumeId, _) =>
              match ← reconciler.attachedNodeId attachment with
              | .error _ => return none
              | .ok nodeId => return some (volumeId, nodeId)

/-- Whether a volume is listed as published on a node. -/
def isPublished (published : Csi.PublishedVolumes) (volumeId nodeId : String) : Bool :=
  (Table.find? published volumeId).any fun nodes => nodes.contains nodeId

/-- Marks an attachment as detached if the driver does not list it as published. That the mark
cannot be written does not matter. -/
def sweepAttachment (reconciler : Reconciler) (published : Csi.PublishedVolumes)
    (attachment : VolumeAttachment) : Action Unit := do
  if reconciler.isSwept attachment then
    match ← reconciler.publication? attachment with
    | none => return ()
    | some (volumeId, nodeId) =>
        if isPublished published volumeId nodeId then return ()
        else
          let _ ← (Action.writeStatus attachment
            (attachment.mapStatus fun status => { status with attached := false })).outcome

/-- Marks all attachments as detached that the driver does not list as published. -/
def sweep (reconciler : Reconciler) (published : Csi.PublishedVolumes) : Action Unit := do
  let attachments ← Action.attachments
  attachments.forM (reconciler.sweepAttachment published)

end Reconciler

/-- Adds the names of all attachments and volumes to their queues. -/
def enqueueAll : Action Unit := do
  let attachments ← Action.attachments
  attachments.forM fun attachment => Action.enqueue .attachments attachment.name
  let volumes ← Action.volumes
  volumes.forM fun volume => Action.enqueue .volumes volume.name

/-- Fails if a reconciler has not been given its queues. -/
def requireQueues (ready : Bool) : Action Unit := do
  if !ready then throw (.settings .notReady)

/-- Does the work on a key: after success its failures are forgotten, after a failure it is tried
again later. -/
def scheduling (queue : QueueName) (key : String) (work : Action Unit) : Action Unit := do
  match ← work.outcome with
  | .ok () => Action.forget queue key
  | .error failure =>
      Action.retry queue key
      throw failure

namespace Reconciler

/-- Works on an attachment. Those addressed to other drivers are left alone. -/
def syncAttachment (reconciler : Reconciler) (attachment : VolumeAttachment) : Action Unit := do
  if reconciler.isAddressee attachment then
    requireQueues reconciler.ready
    scheduling .attachments attachment.name
      (if attachment.isDeleting then reconciler.detach attachment
        else reconciler.attach attachment)

/-- Works on a volume. -/
def syncVolume (reconciler : Reconciler) (volume : PersistentVolume) : Action Unit := do
  requireQueues reconciler.ready
  scheduling .volumes volume.name (reconciler.releaseVolume volume)

/-- Compares all attachments with what the driver lists as published, if it does, and adds all
attachments and volumes to their queues in any case. -/
def reconcileAll (reconciler : Reconciler) : Action Unit := do
  requireQueues reconciler.ready
  let listed : Except Failure Unit ←
    if reconciler.listPublished then
      match ← Action.calls (Csi.listVolumes reconciler.maxEntries reconciler.pageLimit) with
      | .ok published =>
          reconciler.sweep published
          pure (.ok ())
      | .error error => pure (.error (.csi error))
    else pure (.ok ())
  enqueueAll
  Action.ofExcept listed

end Reconciler

end VolumeAttacher.Reconcile
