import VolumeAttacher.Proofs.Cluster.Contents
import VolumeAttacher.Proofs.Reconcile.Courses
import VolumeAttacher.Proofs.Reconcile.Stages

/-!
# What the work on an attachment comes to

If no write is refused and the driver fails no call, what the work on an attachment comes to is a
function of what is stored, its target. It is defined on objects seen without versions and times.
The writes of the work, taken by themselves, leave the target as it is: recording a failure, putting
the finalizers on, and the changes of the status.
-/

namespace VolumeAttacher.Reconcile

/-- An attachment with a failure recorded. -/
def failed (operation : Operation) (attachment : VolumeAttachment) (failure : Failure) :
    VolumeAttachment :=
  attachment.withStatus (operation.recorded ⟨some failure.message, none⟩)

/-- An attachment without an error of attaching. -/
def withoutAttachError (attachment : VolumeAttachment) : VolumeAttachment :=
  attachment.withStatus fun status => { status with attachError := none }

namespace Reconciler

variable (reconciler : Reconciler) (backdrop : Backdrop) (publishContext : Table String)

/-- A volume with the finalizer. -/
def shielded (volume : PersistentVolume) : PersistentVolume :=
  { volume with metadata := volume.metadata.addFinalizer reconciler.finalizer }

/-- An attachment with the finalizer. -/
def guarded (attachment : VolumeAttachment) : VolumeAttachment :=
  if attachment.metadata.hasFinalizer reconciler.finalizer then attachment
  else
    reconciler.protectedAttachment attachment
      (backdrop.nodeId reconciler attachment.spec.nodeName none)

/-- An attachment that is marked as detached, without the finalizer. -/
def released (attachment : VolumeAttachment) : VolumeAttachment :=
  { attachment.withStatus detachedStatus with
    metadata := attachment.metadata.removeFinalizer reconciler.finalizer }

/-- What becomes of an attachment with the finalizer that is attached to a volume. -/
def publishOutcome (volume : PersistentVolume) (attachment : VolumeAttachment) :
    VolumeAttachment × Except Failure Unit :=
  if attachment.isAttached then (withoutAttachError attachment, .ok ())
  else
    match backdrop.sentRequest reconciler volume
        (backdrop.nodeId reconciler attachment.spec.nodeName none) with
    | .error failure => (failed .attach attachment failure, .error failure)
    | .ok _ => (attachment.withStatus (attachedStatus publishContext), .ok ())

/-- What becomes of an attachment that is attached to a volume. -/
def engagedOutcome (volume : PersistentVolume) (attachment : VolumeAttachment) :
    VolumeAttachment × Except Failure Unit :=
  reconciler.publishOutcome backdrop publishContext volume (reconciler.guarded backdrop attachment)

/-- The volume that an attachment is to be attached to, none if it is left alone, or why it cannot
be attached. -/
def attachProspect (volumes : String → Option PersistentVolume)
    (attachment : VolumeAttachment) : Except Failure (Option (String × PersistentVolume)) :=
  match attachment.volumeName? with
  | none => .error (.invalidVolume (.noVolume attachment.name))
  | some volumeName =>
      match volumes volumeName with
      | none => .error (.notFound .persistentVolume volumeName)
      | some volume =>
          if !volume.isOwnedBy reconciler.driver then .ok none
          else if volume.metadata.isDeleting then .error (.invalidVolume (.deleting volumeName))
          else .ok (some (volumeName, volume))

/-- Whether an attachment is to be detached, or why it cannot be detached. -/
def detachProspect (volumes : String → Option PersistentVolume)
    (attachment : VolumeAttachment) : Except Failure Bool :=
  if !attachment.metadata.hasFinalizer reconciler.finalizer then .ok false
  else
    match backdrop.nodeId reconciler attachment.spec.nodeName
        (attachment.metadata.annotation? attachedNodeIdAnnotation) with
    | .error failure => .error failure
    | .ok _ =>
        match attachment.volumeName? with
        | none => .error (.invalidVolume (.noVolume attachment.name))
        | some volumeName =>
            match backdrop.detachInputs volumeName (volumes volumeName) with
            | .error failure => .error failure
            | .ok _ => .ok true

/-- What attaching comes to. -/
def attachTarget (contents : Contents) (attachment : VolumeAttachment) :
    Contents × Except Failure Unit :=
  match reconciler.attachProspect contents.volumes attachment with
  | .error failure =>
      (contents.set attachment.name (some (failed .attach attachment failure)), .error failure)
  | .ok none => (contents, .ok ())
  | .ok (some (volumeName, volume)) =>
      let outcome := reconciler.engagedOutcome backdrop publishContext volume attachment
      ((contents.setVolume volumeName (some (reconciler.shielded volume))).set attachment.name
        (some outcome.1), outcome.2)

/-- What detaching comes to. -/
def detachTarget (contents : Contents) (attachment : VolumeAttachment) :
    Contents × Except Failure Unit :=
  match reconciler.detachProspect backdrop contents.volumes attachment with
  | .error failure =>
      (contents.set attachment.name (some (failed .detach attachment failure)), .error failure)
  | .ok false => (contents, .ok ())
  | .ok true =>
      let released := reconciler.released attachment
      (contents.set attachment.name (if Shelf.isFinished released then none else some released),
        .ok ())

/-- What the work on an attachment comes to. -/
def target (contents : Contents) (attachment : VolumeAttachment) :
    Contents × Except Failure Unit :=
  if !reconciler.isAddressee attachment then (contents, .ok ())
  else if !reconciler.ready then (contents, .error (.settings .notReady))
  else if attachment.isDeleting then reconciler.detachTarget backdrop contents attachment
  else reconciler.attachTarget backdrop publishContext contents attachment

end Reconciler

section Bare

variable (reconciler : Reconciler) (backdrop : Backdrop) (attachment : VolumeAttachment)
  (volume : PersistentVolume)

theorem bare_recorded (operation : Operation) (failure : Failure) (time : Timestamp) :
    (attachment.withStatus (operation.recorded ⟨some failure.message, some time⟩)).bare =
      failed operation attachment.bare failure := by
  cases operation <;> rfl

theorem bare_withoutAttachError :
    (attachment.mapStatus fun status => { status with attachError := none }).bare =
      withoutAttachError attachment.bare := by
  rcases attachment with ⟨metadata, spec, status⟩
  cases status <;> rfl

theorem bare_of_no_attachError
    (fresh : attachment.status.any (fun status => status.attachError.isSome) = false) :
    withoutAttachError attachment.bare = attachment.bare := by
  rcases attachment with ⟨metadata, spec, status⟩
  cases status with
  | none => rfl
  | some status =>
      rcases status with ⟨attached, attachmentMetadata, attachError, detachError⟩
      simp only [Option.any_some, Option.isSome_eq_false_iff, Option.isNone_iff_eq_none] at fresh
      subst fresh
      rfl

theorem bare_attached (publishContext : Table String) :
    (attachment.withStatus (Reconciler.attachedStatus publishContext)).bare =
      attachment.bare.withStatus (Reconciler.attachedStatus publishContext) :=
  rfl

theorem bare_detached :
    (attachment.mapStatus Reconciler.detachedStatus).bare =
      attachment.bare.withStatus Reconciler.detachedStatus := by
  rcases attachment with ⟨metadata, spec, status⟩
  cases status <;> rfl

/-- Marking an attachment as detached does not change one that is not stale. -/
theorem bare_of_not_stale (fresh : attachment.status.any Reconciler.isStale = false) :
    attachment.bare.withStatus Reconciler.detachedStatus = attachment.bare := by
  rcases attachment with ⟨metadata, spec, status⟩
  cases status with
  | none => rfl
  | some status =>
      rcases status with ⟨attached, attachmentMetadata, attachError, detachError⟩
      simp only [Option.any_some, Reconciler.isStale, Bool.or_eq_false_iff,
        Option.isSome_eq_false_iff, Option.isNone_iff_eq_none] at fresh
      rcases fresh with ⟨⟨rfl, rfl⟩, rfl⟩
      rfl

/-- Taking the finalizer off an attachment that is not stale. -/
theorem bare_released
    (fresh : attachment.bare.withStatus Reconciler.detachedStatus = attachment.bare) :
    { attachment with
      metadata := attachment.metadata.removeFinalizer reconciler.finalizer }.bare =
      reconciler.released attachment.bare := by
  unfold Reconciler.released
  rw [fresh]
  rfl

theorem unversioned_addFinalizer (metadata : Metadata) (finalizer : String) :
    (metadata.addFinalizer finalizer).unversioned =
      metadata.unversioned.addFinalizer finalizer := by
  have same : metadata.unversioned.hasFinalizer finalizer = metadata.hasFinalizer finalizer := rfl
  unfold Metadata.addFinalizer
  rw [same]
  split <;> rfl

theorem bare_protectedAttachment (nodeId : Except Failure String) :
    (reconciler.protectedAttachment attachment nodeId).bare =
      reconciler.protectedAttachment attachment.bare nodeId := by
  cases nodeId with
  | error failure =>
      simp [Reconciler.protectedAttachment, VolumeAttachment.bare, unversioned_addFinalizer]
  | ok id =>
      simp [Reconciler.protectedAttachment, VolumeAttachment.bare, Metadata.annotate,
        ← unversioned_addFinalizer]
      rfl

/-- Putting the finalizer on an attachment has nothing to do with its status. -/
theorem protectedAttachment_keeps_status (nodeId : Except Failure String) :
    { reconciler.protectedAttachment attachment nodeId with status := attachment.status } =
      reconciler.protectedAttachment attachment nodeId := by
  cases nodeId <;> rfl

theorem bare_shielded : (reconciler.shielded volume).bare = reconciler.shielded volume.bare := by
  simp [Reconciler.shielded, PersistentVolume.bare, unversioned_addFinalizer]

end Bare

theorem failed_failed (operation : Operation) (attachment : VolumeAttachment)
    (failure later : Failure) :
    failed operation (failed operation attachment failure) later =
      failed operation attachment later := by
  cases operation <;> rfl

theorem isAttached_withoutAttachError (attachment : VolumeAttachment) :
    (withoutAttachError attachment).isAttached = attachment.isAttached := by
  rcases attachment with ⟨metadata, spec, status⟩
  cases status <;> rfl

namespace Reconciler

section

variable (reconciler : Reconciler) (backdrop : Backdrop) (attachment : VolumeAttachment)

theorem guarded_withStatus (change : AttachmentStatus → AttachmentStatus) :
    reconciler.guarded backdrop (attachment.withStatus change) =
      (reconciler.guarded backdrop attachment).withStatus change := by
  unfold guarded
  cases carries : attachment.metadata.hasFinalizer reconciler.finalizer with
  | true => simp [VolumeAttachment.withStatus, carries]
  | false =>
      cases unknown : backdrop.nodeId reconciler attachment.spec.nodeName none <;>
        simp [VolumeAttachment.withStatus, carries, unknown, protectedAttachment]

theorem guarded_of_hasFinalizer
    (carries : attachment.metadata.hasFinalizer reconciler.finalizer = true) :
    reconciler.guarded backdrop attachment = attachment :=
  if_pos carries

theorem guarded_of_not_hasFinalizer
    (lacks : ¬ attachment.metadata.hasFinalizer reconciler.finalizer = true) :
    reconciler.guarded backdrop attachment =
      reconciler.protectedAttachment attachment
        (backdrop.nodeId reconciler attachment.spec.nodeName none) :=
  if_neg lacks

theorem hasFinalizer_guarded :
    (reconciler.guarded backdrop attachment).metadata.hasFinalizer reconciler.finalizer = true := by
  unfold guarded
  split
  · assumption
  · exact hasFinalizer_protectedAttachment _ _

theorem spec_guarded : (reconciler.guarded backdrop attachment).spec = attachment.spec := by
  unfold guarded
  split
  · rfl
  · exact spec_protectedAttachment _ _

theorem name_guarded : (reconciler.guarded backdrop attachment).name = attachment.name := by
  unfold guarded
  split
  · rfl
  · exact name_protectedAttachment _ _

theorem isAttached_guarded :
    (reconciler.guarded backdrop attachment).isAttached = attachment.isAttached := by
  unfold guarded
  split
  · rfl
  · unfold protectedAttachment
    split <;> rfl

theorem isDeleting_guarded :
    (reconciler.guarded backdrop attachment).isDeleting = attachment.isDeleting := by
  unfold guarded
  split
  · rfl
  · exact isDeleting_protectedAttachment _ _

end

section

variable (reconciler : Reconciler) (volume : PersistentVolume)

theorem shielded_of_hasFinalizer
    (carries : volume.metadata.hasFinalizer reconciler.finalizer = true) :
    reconciler.shielded volume = volume := by
  simp [shielded, Metadata.addFinalizer, carries]

theorem shielded_shielded :
    reconciler.shielded (reconciler.shielded volume) = reconciler.shielded volume :=
  reconciler.shielded_of_hasFinalizer _ (by simp [shielded])

theorem isOwnedBy_shielded (driver : String) :
    (reconciler.shielded volume).isOwnedBy driver = volume.isOwnedBy driver := by
  simp [shielded, Metadata.addFinalizer]
  split <;> rfl

theorem isDeleting_shielded :
    (reconciler.shielded volume).metadata.isDeleting = volume.metadata.isDeleting := by
  simp [shielded]

theorem sentRequest_shielded (backdrop : Backdrop) (nodeId : Except Failure String) :
    backdrop.sentRequest reconciler (reconciler.shielded volume) nodeId =
      backdrop.sentRequest reconciler volume nodeId := by
  unfold shielded Metadata.addFinalizer
  split <;> rfl

end

section

variable {reconciler : Reconciler} {backdrop : Backdrop} {publishContext : Table String}
  {volume : PersistentVolume} {attachment : VolumeAttachment}

theorem publishOutcome_failed (failure : Failure) :
    reconciler.publishOutcome backdrop publishContext volume (failed .attach attachment failure) =
      reconciler.publishOutcome backdrop publishContext volume attachment := by
  unfold publishOutcome
  rw [failed, isAttached_recorded]
  rfl

theorem publishOutcome_shielded :
    reconciler.publishOutcome backdrop publishContext (reconciler.shielded volume) attachment =
      reconciler.publishOutcome backdrop publishContext volume attachment := by
  unfold publishOutcome
  rw [sentRequest_shielded]

theorem engagedOutcome_shielded :
    reconciler.engagedOutcome backdrop publishContext (reconciler.shielded volume) attachment =
      reconciler.engagedOutcome backdrop publishContext volume attachment :=
  publishOutcome_shielded

theorem engagedOutcome_failed (failure : Failure) :
    reconciler.engagedOutcome backdrop publishContext volume (failed .attach attachment failure) =
      reconciler.engagedOutcome backdrop publishContext volume attachment := by
  unfold engagedOutcome
  rw [failed, guarded_withStatus]
  exact publishOutcome_failed failure

theorem engagedOutcome_guarded :
    reconciler.engagedOutcome backdrop publishContext volume
        (reconciler.guarded backdrop attachment) =
      reconciler.engagedOutcome backdrop publishContext volume attachment := by
  unfold engagedOutcome
  rw [guarded_of_hasFinalizer _ _ _ (hasFinalizer_guarded _ _ _)]

theorem publishOutcome_of_attached (attached : attachment.isAttached = true) :
    reconciler.publishOutcome backdrop publishContext volume attachment =
      (withoutAttachError attachment, .ok ()) :=
  if_pos attached

theorem publishOutcome_of_unsent {failure : Failure} (notAttached : attachment.isAttached = false)
    (unsent : backdrop.sentRequest reconciler volume
      (backdrop.nodeId reconciler attachment.spec.nodeName none) = .error failure) :
    reconciler.publishOutcome backdrop publishContext volume attachment =
      (failed .attach attachment failure, .error failure) := by
  rw [publishOutcome, if_neg (ne_true_of_eq_false notAttached), unsent]

theorem publishOutcome_of_sent {request : Csi.AttachRequest}
    (notAttached : attachment.isAttached = false)
    (sent : backdrop.sentRequest reconciler volume
      (backdrop.nodeId reconciler attachment.spec.nodeName none) = .ok request) :
    reconciler.publishOutcome backdrop publishContext volume attachment =
      (attachment.withStatus (attachedStatus publishContext), .ok ()) := by
  rw [publishOutcome, if_neg (ne_true_of_eq_false notAttached), sent]

theorem metadata_publishOutcome :
    (reconciler.publishOutcome backdrop publishContext volume attachment).1.metadata =
      attachment.metadata := by
  unfold publishOutcome
  split
  · rfl
  · split <;> rfl

theorem spec_publishOutcome :
    (reconciler.publishOutcome backdrop publishContext volume attachment).1.spec =
      attachment.spec := by
  unfold publishOutcome
  split
  · rfl
  · split <;> rfl

theorem guarded_publishOutcome
    (carries : attachment.metadata.hasFinalizer reconciler.finalizer = true) :
    reconciler.guarded backdrop
        (reconciler.publishOutcome backdrop publishContext volume attachment).1 =
      (reconciler.publishOutcome backdrop publishContext volume attachment).1 := by
  apply guarded_of_hasFinalizer
  rw [metadata_publishOutcome]
  exact carries

/-- What has become of an attachment with the finalizer is settled. -/
theorem publishOutcome_publishOutcome :
    reconciler.publishOutcome backdrop publishContext volume
        (reconciler.publishOutcome backdrop publishContext volume attachment).1 =
      reconciler.publishOutcome backdrop publishContext volume attachment := by
  cases attached : attachment.isAttached with
  | true =>
      rw [publishOutcome_of_attached attached]
      exact publishOutcome_of_attached ((isAttached_withoutAttachError attachment).trans attached)
  | false =>
      cases sent : backdrop.sentRequest reconciler volume
          (backdrop.nodeId reconciler attachment.spec.nodeName none) with
      | error failure =>
          have unsent : reconciler.publishOutcome backdrop publishContext volume attachment = _ :=
            publishOutcome_of_unsent attached sent
          rw [unsent, publishOutcome_failed, unsent]
      | ok request =>
          rw [publishOutcome_of_sent attached sent]
          exact publishOutcome_of_attached rfl

/-- What has become of an attachment is settled. -/
theorem engagedOutcome_engagedOutcome :
    reconciler.engagedOutcome backdrop publishContext volume
        (reconciler.engagedOutcome backdrop publishContext volume attachment).1 =
      reconciler.engagedOutcome backdrop publishContext volume attachment := by
  unfold engagedOutcome
  rw [guarded_publishOutcome (hasFinalizer_guarded _ _ _), publishOutcome_publishOutcome]

theorem attachProspect_eq {volumes : String → Option PersistentVolume} {other : VolumeAttachment}
    (sameName : other.name = attachment.name) (sameSpec : other.spec = attachment.spec) :
    reconciler.attachProspect volumes other = reconciler.attachProspect volumes attachment := by
  unfold attachProspect
  rw [volumeName?_eq_of_spec_eq sameSpec, sameName]

theorem detachProspect_eq {volumes : String → Option PersistentVolume} {other : VolumeAttachment}
    (sameMetadata : other.metadata = attachment.metadata)
    (sameSpec : other.spec = attachment.spec) :
    reconciler.detachProspect backdrop volumes other =
      reconciler.detachProspect backdrop volumes attachment := by
  unfold detachProspect VolumeAttachment.name
  rw [volumeName?_eq_of_spec_eq sameSpec, sameMetadata, sameSpec]

theorem detachProspect_of_unknown {volumes : String → Option PersistentVolume} {failure : Failure}
    (carries : attachment.metadata.hasFinalizer reconciler.finalizer = true)
    (unknown : backdrop.nodeId reconciler attachment.spec.nodeName
      (attachment.metadata.annotation? attachedNodeIdAnnotation) = .error failure) :
    reconciler.detachProspect backdrop volumes attachment = .error failure := by
  simp [detachProspect, carries, unknown]

theorem detachProspect_of_unnamed {volumes : String → Option PersistentVolume} {nodeId : String}
    (carries : attachment.metadata.hasFinalizer reconciler.finalizer = true)
    (known : backdrop.nodeId reconciler attachment.spec.nodeName
      (attachment.metadata.annotation? attachedNodeIdAnnotation) = .ok nodeId)
    (unnamed : attachment.volumeName? = none) :
    reconciler.detachProspect backdrop volumes attachment =
      .error (.invalidVolume (.noVolume attachment.name)) := by
  simp [detachProspect, carries, known, unnamed]

theorem detachProspect_of_named {volumes : String → Option PersistentVolume}
    {nodeId volumeName : String} {inputs : Except Failure (String × Table String)}
    (carries : attachment.metadata.hasFinalizer reconciler.finalizer = true)
    (known : backdrop.nodeId reconciler attachment.spec.nodeName
      (attachment.metadata.annotation? attachedNodeIdAnnotation) = .ok nodeId)
    (named : attachment.volumeName? = some volumeName)
    (isInputs : backdrop.detachInputs volumeName (volumes volumeName) = inputs) :
    reconciler.detachProspect backdrop volumes attachment = inputs.map fun _ => true := by
  cases inputs <;> simp [detachProspect, carries, known, named, isInputs, Except.map]

theorem detachInputs_bare (volumeName : String) (found : Option PersistentVolume) :
    backdrop.detachInputs volumeName (found.map PersistentVolume.bare) =
      backdrop.detachInputs volumeName found := by
  cases found <;> rfl

theorem released_withStatus {change : AttachmentStatus → AttachmentStatus}
    (hidden : ∀ status, detachedStatus (change status) = detachedStatus status) :
    reconciler.released (attachment.withStatus change) = reconciler.released attachment := by
  simp [released, VolumeAttachment.withStatus, hidden]

end

end Reconciler

end VolumeAttacher.Reconcile
