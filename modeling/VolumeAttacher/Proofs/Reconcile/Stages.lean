import VolumeAttacher.Proofs.Object.Finalizers
import VolumeAttacher.Proofs.Reconcile.Action

/-!
# The stages of reconciliation

A discipline that every call of a reconciler keeps to. Its stages say which copy of an attachment or
of a volume the call works on and what the call has made sure of, and its moves say which requests
are made in which stage. Everything that a call may change is listed here once: laws about runs of
calls go through the moves, and never through the code of the calls again.
-/

namespace VolumeAttacher.Reconcile

/-- How far a call has come with the copy that it works on. -/
inductive Stage where
  /-- Attaching, nothing has been made sure of. -/
  | attaching (attachment : VolumeAttachment)
  /-- The volume has been found, without the finalizer. -/
  | found (attachment : VolumeAttachment) (volume : PersistentVolume)
  /-- The volume carries the finalizer, the attachment does not. -/
  | shielded (attachment : VolumeAttachment)
  /-- The attachment and its volume carry the finalizer. -/
  | guarded (attachment : VolumeAttachment)
  /-- The driver has published the volume. -/
  | published (attachment : VolumeAttachment)
  /-- Detaching, the driver has not said that the volume is unpublished. -/
  | detaching (attachment : VolumeAttachment)
  /-- The driver has said that the volume is unpublished. -/
  | unpublished (attachment : VolumeAttachment)
  /-- The volume is unpublished, and the status does not say anything else. -/
  | cleared (attachment : VolumeAttachment)
  /-- Working on a volume. -/
  | releasing (volume : PersistentVolume)
  /-- No attachment of the volume is recorded as attached. -/
  | unused (volume : PersistentVolume)
  /-- Nothing depends on what the call has seen. -/
  | resting

namespace Stage

def copy? : Stage → Option VolumeAttachment
  | attaching attachment | found attachment _ | shielded attachment | guarded attachment
  | published attachment | detaching attachment | unpublished attachment | cleared attachment =>
      some attachment
  | releasing _ | unused _ | resting => none

end Stage

namespace Reconciler

variable (reconciler : Reconciler)

def opening (attachment : VolumeAttachment) : Stage :=
  if attachment.isDeleting then .detaching attachment else .attaching attachment

/-- The stage once the volume of an attachment carries the finalizer. -/
def secured (attachment : VolumeAttachment) : Stage :=
  if attachment.metadata.hasFinalizer reconciler.finalizer then .guarded attachment
  else .shielded attachment

/-- The stage after the volume of an attachment has been looked up. -/
def afterLookup (attachment : VolumeAttachment) : Option PersistentVolume → Stage
  | none => .attaching attachment
  | some volume =>
      if volume.metadata.hasFinalizer reconciler.finalizer then reconciler.secured attachment
      else .found attachment volume

def afterShielding (attachment : VolumeAttachment) : Except Failure PersistentVolume → Stage
  | .ok _ => reconciler.secured attachment
  | .error _ => .attaching attachment

def afterGuarding (attachment : VolumeAttachment) : Except Failure VolumeAttachment → Stage
  | .ok stored => .guarded stored
  | .error _ => .shielded attachment

def afterPublishing (attachment : VolumeAttachment) : Except Csi.Error Csi.PublishResponse → Stage
  | .ok _ => .published attachment
  | .error _ => .guarded attachment

def withdrawn (attachment : VolumeAttachment) : Stage :=
  if attachment.status.any isStale then .unpublished attachment else .cleared attachment

def afterUnpublishing (attachment : VolumeAttachment) :
    Except Csi.Error Csi.UnpublishResponse → Stage
  | .ok _ => withdrawn attachment
  | .error error => if error.isFinal then withdrawn attachment else .detaching attachment

def afterClearing : Except Failure VolumeAttachment → Stage
  | .ok stored => .cleared stored
  | .error _ => .resting

def afterSurvey (volume : PersistentVolume) (attachments : List VolumeAttachment) : Stage :=
  if isInUse volume.name attachments then .resting else .unused volume

/-- The moves of a reconciler's calls: which request may be made in a stage, and the stage in which
the answer leaves the call. -/
inductive Move : Stage → (request : Request) → (request.Answer → Stage) → Prop
  | look {stage : Stage} {request : Request} (isLook : request.isLook) :
      Move stage request fun _ => stage
  /-- The volume of an attachment is looked up. -/
  | find {attachment : VolumeAttachment} {name : String}
      (named : attachment.volumeName? = some name) :
      Move (.attaching attachment) (.volume name) (reconciler.afterLookup attachment)
  | shield (attachment : VolumeAttachment) (volume : PersistentVolume) :
      Move (.found attachment volume)
        (.writeVolume volume
          { volume with metadata := volume.metadata.addFinalizer reconciler.finalizer })
        (reconciler.afterShielding attachment)
  | guard (attachment : VolumeAttachment) (nodeId : Except Failure String) :
      Move (.shielded attachment)
        (.writeAttachment attachment (reconciler.protectedAttachment attachment nodeId))
        (afterGuarding attachment)
  | publish (attachment : VolumeAttachment) (request : Csi.PublishRequest) :
      Move (.guarded attachment) (.call (.publish request)) (afterPublishing attachment)
  | confirm (attachment : VolumeAttachment) (publishContext : Table String) :
      Move (.published attachment)
        (.writeStatus attachment (attachment.withStatus (attachedStatus publishContext)))
        fun _ => .resting
  | unpublish {attachment : VolumeAttachment}
      (carries : attachment.metadata.hasFinalizer reconciler.finalizer)
      (request : Csi.UnpublishRequest) :
      Move (.detaching attachment) (.call (.unpublish request)) (afterUnpublishing attachment)
  | clear (attachment : VolumeAttachment) :
      Move (.unpublished attachment)
        (.writeStatus attachment (attachment.mapStatus detachedStatus)) afterClearing
  | unguard (attachment : VolumeAttachment) :
      Move (.cleared attachment)
        (.writeAttachment attachment
          { attachment with
            metadata := attachment.metadata.removeFinalizer reconciler.finalizer })
        fun _ => .resting
  /-- A status is written that marks the attachment as attached only if its copy is. -/
  | remark {stage : Stage} {old new : VolumeAttachment}
      (kept : new.isAttached → stage.copy? = some old ∧ old.isAttached) :
      Move stage (.writeStatus old new) fun _ => .resting
  | survey (volume : PersistentVolume) :
      Move (.releasing volume) .attachments (afterSurvey volume)
  | release (volume : PersistentVolume) :
      Move (.unused volume)
        (.writeVolume volume
          { volume with metadata := volume.metadata.removeFinalizer reconciler.finalizer })
        fun _ => .resting

variable {reconciler}

theorem volumeName?_eq_of_spec_eq {attachment other : VolumeAttachment}
    (spec : attachment.spec = other.spec) : attachment.volumeName? = other.volumeName? := by
  unfold VolumeAttachment.volumeName?
  rw [spec]

theorem isAddressee_eq_of_spec_eq {attachment other : VolumeAttachment}
    (spec : attachment.spec = other.spec) :
    reconciler.isAddressee attachment = reconciler.isAddressee other := by
  unfold isAddressee
  rw [spec]

theorem spec_protectedAttachment (attachment : VolumeAttachment)
    (nodeId : Except Failure String) :
    (reconciler.protectedAttachment attachment nodeId).spec = attachment.spec := by
  cases nodeId <;> rfl

theorem name_protectedAttachment (attachment : VolumeAttachment)
    (nodeId : Except Failure String) :
    (reconciler.protectedAttachment attachment nodeId).name = attachment.name := by
  cases nodeId <;> simp [protectedAttachment, VolumeAttachment.name]

theorem isDeleting_protectedAttachment (attachment : VolumeAttachment)
    (nodeId : Except Failure String) :
    (reconciler.protectedAttachment attachment nodeId).isDeleting = attachment.isDeleting := by
  cases nodeId <;> simp [protectedAttachment, VolumeAttachment.isDeleting]

theorem hasFinalizer_protectedAttachment (attachment : VolumeAttachment)
    (nodeId : Except Failure String) :
    (reconciler.protectedAttachment attachment nodeId).metadata.hasFinalizer
      reconciler.finalizer := by
  cases nodeId <;> simp [protectedAttachment]

theorem isAttached_detached (attachment : VolumeAttachment) :
    (attachment.mapStatus detachedStatus).isAttached = false := by
  cases status : attachment.status <;>
    simp [VolumeAttachment.mapStatus, VolumeAttachment.isAttached, detachedStatus, status]

theorem isAttached_recorded (operation : Operation) (error : VolumeError)
    (attachment : VolumeAttachment) :
    (attachment.withStatus (operation.recorded error)).isAttached = attachment.isAttached := by
  cases operation <;> cases status : attachment.status <;>
    simp [VolumeAttachment.withStatus, VolumeAttachment.isAttached, Operation.recorded, status]

end Reconciler

end VolumeAttacher.Reconcile
