import VolumeAttacher.Proofs.Reconcile.Calls
import VolumeAttacher.Proofs.Reconcile.Veil

/-!
# Secrets go to the driver only

Whatever a secret contains, all that a call makes of it are the secrets of a call to the driver.
Hence a call cannot be told apart through the veil from a call with other secrets, nor from one at
other times, if the attachments that both were given differ in the times of their errors at most.
-/

namespace VolumeAttacher

open Reconcile.Action

namespace VolumeAttachment

variable {attachment other : VolumeAttachment}
  {change changeOther : AttachmentStatus → AttachmentStatus}

theorem withStatus_alike (alike : attachment.untimed = other.untimed)
    (changes : ∀ status statusOther, status.untimed = statusOther.untimed →
      (change status).untimed = (changeOther statusOther).untimed) :
    (attachment.withStatus change).untimed = (other.withStatus changeOther).untimed := by
  rcases attachment with ⟨metadata, spec, status⟩
  rcases other with ⟨_, _, statusOther⟩
  injection alike with sameMetadata sameSpec sameStatus
  cases sameMetadata
  cases sameSpec
  have initial : (status.getD {}).untimed = (statusOther.getD {}).untimed := by
    cases status <;> cases statusOther <;> simp_all
  exact congrArg (fun status => VolumeAttachment.mk metadata spec (some status))
    (changes _ _ initial)

theorem mapStatus_alike (change : AttachmentStatus → AttachmentStatus)
    (alike : attachment.untimed = other.untimed)
    (changes : ∀ status statusOther, status.untimed = statusOther.untimed →
      (change status).untimed = (change statusOther).untimed) :
    (attachment.mapStatus change).untimed = (other.mapStatus change).untimed := by
  rcases attachment with ⟨metadata, spec, status⟩
  rcases other with ⟨_, _, statusOther⟩
  injection alike with sameMetadata sameSpec sameStatus
  cases sameMetadata
  cases sameSpec
  refine congrArg (VolumeAttachment.mk metadata spec) ?_
  cases status with
  | none =>
      cases statusOther with
      | none => rfl
      | some _ => contradiction
  | some status =>
      cases statusOther with
      | none => contradiction
      | some statusOther =>
          exact congrArg some (changes status statusOther (Option.some.inj sameStatus))

theorem metadata_alike (alike : attachment.untimed = other.untimed) :
    other.metadata = attachment.metadata :=
  (congrArg VolumeAttachment.metadata alike).symm

theorem spec_alike (alike : attachment.untimed = other.untimed) : other.spec = attachment.spec :=
  (congrArg VolumeAttachment.spec alike).symm

theorem name_alike (alike : attachment.untimed = other.untimed) : other.name = attachment.name :=
  (congrArg name alike).symm

theorem volumeName?_alike (alike : attachment.untimed = other.untimed) :
    other.volumeName? = attachment.volumeName? :=
  (congrArg volumeName? alike).symm

/-- What a status tells of anything but times can be seen through the veil. -/
theorem any_alike (alike : attachment.untimed = other.untimed)
    (tells : AttachmentStatus → Bool)
    (isSeen : ∀ status : AttachmentStatus, tells status.untimed = tells status) :
    other.status.any tells = attachment.status.any tells := by
  have seen (attachment : VolumeAttachment) :
      attachment.untimed.status.any tells = attachment.status.any tells := by
    rcases attachment with ⟨_, _, _ | status⟩
    · rfl
    · exact isSeen status
  rw [← seen other, ← alike, seen]

theorem isAttached_alike (alike : attachment.untimed = other.untimed) :
    other.isAttached = attachment.isAttached :=
  any_alike alike AttachmentStatus.attached fun _ => rfl

end VolumeAttachment

namespace Reconcile

variable {reconciler : Reconciler} {attachment other : VolumeAttachment} {operation : Operation}

theorem Operation.recorded_alike (operation : Operation) (message : Option String)
    (time timeOther : Option Timestamp) (status statusOther : AttachmentStatus)
    (alike : status.untimed = statusOther.untimed) :
    (operation.recorded { message, time } status).untimed =
      (operation.recorded { message, time := timeOther } statusOther).untimed := by
  cases operation with
  | attach =>
      exact congrArg (fun status : AttachmentStatus =>
        { status with attachError := some { message, time := none } }) alike
  | detach =>
      exact congrArg (fun status : AttachmentStatus =>
        { status with detachError := some { message, time := none } }) alike

theorem record_lockstep (alike : attachment.untimed = other.untimed) (failure : Failure) :
    Lockstep (fun _ _ => True) (record operation attachment failure)
      (record operation other failure) := by
  apply lockstep_currentTime.bind
  intro time timeOther _
  apply (lockstep_outcome (lockstep_writeStatus alike (VolumeAttachment.withStatus_alike alike
    (operation.recorded_alike _ _ _)))).bind
  intro _ _ _
  exact lockstep_pure trivial

theorem failWith_lockstep {α β : Type} {ends : α → β → Prop}
    (alike : attachment.untimed = other.untimed) (failure : Failure) :
    Lockstep ends (failWith operation attachment failure : Action α)
      (failWith operation other failure : Action β) := by
  apply (record_lockstep alike failure).bind
  intro _ _ _
  exact lockstep_throw failure

theorem recording_lockstep {α β : Type} {ends : α → β → Prop} {action : Action α}
    {actionOther : Action β} (alike : attachment.untimed = other.untimed)
    (lockstep : Lockstep ends action actionOther) :
    Lockstep ends (recording operation attachment action)
      (recording operation other actionOther) := by
  apply (lockstep_outcome lockstep).bind
  intro _ _ ended
  cases ended with
  | ok ended => exact lockstep_pure ended
  | error failure => exact failWith_lockstep alike failure

namespace Reconciler

theorem nodeId_lockstep (nodeName : String) (kept : Option String) :
    Lockstep Eq (reconciler.nodeId nodeName kept) (reconciler.nodeId nodeName kept) := by
  apply (lockstep_ask (.csiNode nodeName) rfl).bind
  rintro registered _ rfl
  cases registered.bind fun node => node.idFor? reconciler.driver with
  | some id => exact lockstep_pure rfl
  | none =>
      apply (lockstep_ask (.node nodeName) rfl).bind
      rintro node _ rfl
      dsimp only
      split <;> exact lockstep_pure rfl

theorem attachedNodeId_lockstep (alike : attachment.untimed = other.untimed) :
    Lockstep Eq (reconciler.attachedNodeId attachment) (reconciler.attachedNodeId other) := by
  unfold attachedNodeId
  rw [VolumeAttachment.metadata_alike alike, VolumeAttachment.spec_alike alike]
  exact nodeId_lockstep _ _

/-- Whether a secret is found does not depend on what it contains. -/
theorem secrets_lockstep (volume : PersistentVolume) :
    Lockstep (fun _ _ => True) (secrets volume) (secrets volume) := by
  unfold secrets
  cases volume.publishSecret? with
  | none => exact lockstep_pure trivial
  | some reference =>
      apply (lockstep_secret? _ _).bind
      intro secret secretOther alike
      cases secret with
      | none =>
          cases secretOther with
          | none => exact lockstep_throw _
          | some _ => contradiction
      | some secret =>
          cases secretOther with
          | none => contradiction
          | some _ => exact lockstep_pure trivial

theorem protectVolume_lockstep (volume : PersistentVolume) :
    Lockstep (fun _ _ => True) (reconciler.protectVolume volume)
      (reconciler.protectVolume volume) := by
  apply lockstep_ite
  · intro _
    apply (lockstep_writeVolume _ _).bind
    intro _ _ _
    exact lockstep_pure trivial
  · intro _
    exact lockstep_pure trivial

theorem protectedAttachment_alike (alike : attachment.untimed = other.untimed)
    (nodeId : Except Failure String) :
    (reconciler.protectedAttachment attachment nodeId).untimed =
      (reconciler.protectedAttachment other nodeId).untimed := by
  cases nodeId with
  | ok id =>
      exact congrArg (fun attachment : VolumeAttachment =>
        reconciler.protectedAttachment attachment (.ok id)) alike
  | error failure =>
      exact congrArg (fun attachment : VolumeAttachment =>
        reconciler.protectedAttachment attachment (.error failure)) alike

theorem protectAttachment_lockstep (alike : attachment.untimed = other.untimed)
    (nodeId : Except Failure String) :
    Lockstep (fun stored storedOther => stored.untimed = storedOther.untimed)
      (reconciler.protectAttachment attachment nodeId)
      (reconciler.protectAttachment other nodeId) := by
  unfold protectAttachment
  rw [VolumeAttachment.metadata_alike alike]
  apply lockstep_ite
  · intro _
    exact lockstep_pure alike
  · intro _
    exact lockstep_writeAttachment alike (protectedAttachment_alike alike nodeId)

theorem clearAttachError_lockstep (alike : attachment.untimed = other.untimed) :
    Lockstep (fun _ _ => True) (clearAttachError attachment) (clearAttachError other) := by
  unfold clearAttachError
  have failed : other.status.any (fun status => status.attachError.isSome) =
      attachment.status.any fun status => status.attachError.isSome :=
    VolumeAttachment.any_alike alike _ fun status => Option.isSome_map
  rw [failed]
  apply lockstep_ite
  · intro _
    have cleared := VolumeAttachment.mapStatus_alike
      (fun status => { status with attachError := none }) alike fun _ _ same =>
        congrArg (fun status : AttachmentStatus => { status with attachError := none }) same
    apply (lockstep_writeStatus alike cleared).bind
    intro _ _ _
    exact lockstep_pure trivial
  · intro _
    exact lockstep_pure trivial

theorem attachRequest_lockstep (volume : PersistentVolume) (nodeId : Except Failure String) :
    Lockstep (fun request other => { request with secrets := [] } = { other with secrets := [] })
      (reconciler.attachRequest volume nodeId) (reconciler.attachRequest volume nodeId) := by
  apply (lockstep_ofExcept nodeId).bind
  rintro nodeId _ rfl
  apply (lockstep_ofExcept _).bind
  rintro ⟨volumeId, readOnly⟩ _ rfl
  apply (lockstep_ofExcept _).bind
  rintro capability _ rfl
  apply (secrets_lockstep volume).bind
  intro _ _ _
  exact lockstep_pure rfl

theorem csiAttach_lockstep {request other : Csi.AttachRequest}
    (alike : { request with secrets := [] } = { other with secrets := [] }) :
    Program.Lockstep Csi.veil Eq (Csi.attach request).run (Csi.attach other).run := by
  rcases request with ⟨volumeId, nodeId, readOnly, capability, volumeContext, secrets⟩
  rcases other with ⟨_, _, _, _, _, secretsOther⟩
  cases alike
  unfold Csi.attach
  dsimp only
  split
  · exact .done rfl
  · refine .ask rfl ?_
    intro answer answerOther same
    cases eq_of_heq same
    cases answer <;> exact .done rfl

theorem attachedStatus_alike (publishContext : Table String) (status other : AttachmentStatus)
    (alike : status.untimed = other.untimed) :
    (attachedStatus publishContext status).untimed =
      (attachedStatus publishContext other).untimed :=
  congrArg (attachedStatus publishContext) alike

theorem publish_lockstep (alike : attachment.untimed = other.untimed)
    (volume : PersistentVolume) (nodeId : Except Failure String) :
    Lockstep (fun _ _ => True) (reconciler.publish attachment volume nodeId)
      (reconciler.publish other volume nodeId) := by
  apply (recording_lockstep alike (attachRequest_lockstep volume nodeId)).bind
  intro request requestOther requestsAlike
  apply (lockstep_calls (csiAttach_lockstep requestsAlike)).bind
  rintro result _ rfl
  cases result with
  | error error => exact failWith_lockstep alike _
  | ok publishContext =>
      apply (lockstep_writeStatus alike (VolumeAttachment.withStatus_alike alike
        (attachedStatus_alike publishContext))).bind
      intro _ _ _
      exact lockstep_pure trivial

theorem attach_lockstep (alike : attachment.untimed = other.untimed) :
    Lockstep (fun _ _ => True) (reconciler.attach attachment) (reconciler.attach other) := by
  unfold attach
  rw [VolumeAttachment.volumeName?_alike alike, VolumeAttachment.name_alike alike,
    VolumeAttachment.spec_alike alike]
  cases attachment.volumeName? with
  | none => exact failWith_lockstep alike _
  | some volumeName =>
      apply (lockstep_ask (.volume volumeName) rfl).bind
      rintro found _ rfl
      cases found with
      | none => exact failWith_lockstep alike _
      | some volume =>
          apply lockstep_ite
          · intro _
            exact lockstep_pure trivial
          · intro _
            apply lockstep_ite
            · intro _
              exact failWith_lockstep alike _
            · intro _
              apply (recording_lockstep alike (protectVolume_lockstep volume)).bind
              intro _ _ _
              apply (nodeId_lockstep _ none).bind
              rintro nodeId _ rfl
              apply (recording_lockstep alike (protectAttachment_lockstep alike nodeId)).bind
              intro stored storedOther storedAlike
              rw [VolumeAttachment.isAttached_alike storedAlike]
              apply lockstep_ite
              · intro _
                exact clearAttachError_lockstep storedAlike
              · intro _
                exact publish_lockstep storedAlike volume nodeId

theorem detachInputs_lockstep (volumeName : String) :
    Lockstep (fun inputs other => inputs.1 = other.1) (detachInputs volumeName)
      (detachInputs volumeName) := by
  apply (lockstep_ask (.volume volumeName) rfl).bind
  rintro found _ rfl
  cases found with
  | none => exact lockstep_throw _
  | some volume =>
      apply (lockstep_ofExcept _).bind
      rintro ⟨volumeId, readOnly⟩ _ rfl
      apply (secrets_lockstep volume).bind
      intro _ _ _
      exact lockstep_pure rfl

theorem csiDetach_lockstep (volumeId nodeId : String) (secrets secretsOther : Table String) :
    Program.Lockstep Csi.veil Eq (Csi.detach volumeId nodeId secrets).run
      (Csi.detach volumeId nodeId secretsOther).run := by
  refine .ask rfl ?_
  intro answer answerOther same
  cases eq_of_heq same
  cases answer <;> exact .done rfl

theorem markDetached_lockstep (alike : attachment.untimed = other.untimed) :
    Lockstep (fun _ _ => True) (reconciler.markDetached attachment)
      (reconciler.markDetached other) := by
  have unguarded {stored storedOther : VolumeAttachment}
      (alike : stored.untimed = storedOther.untimed) :
      Lockstep (fun _ _ => True)
        (do
          let _ ← Action.writeAttachment stored
            { stored with metadata := stored.metadata.removeFinalizer reconciler.finalizer })
        (do
          let _ ← Action.writeAttachment storedOther
            { storedOther with
              metadata := storedOther.metadata.removeFinalizer reconciler.finalizer }) := by
    refine (lockstep_writeAttachment alike ?_).bind ?_
    · exact congrArg (fun stored : VolumeAttachment =>
        { stored with metadata := stored.metadata.removeFinalizer reconciler.finalizer }) alike
    · intro _ _ _
      exact lockstep_pure trivial
  have stale : other.status.any isStale = attachment.status.any isStale := by
    apply VolumeAttachment.any_alike alike
    intro status
    simp [isStale, AttachmentStatus.untimed]
  unfold markDetached
  rw [stale]
  apply lockstep_ite
  · intro _
    have cleared := VolumeAttachment.mapStatus_alike detachedStatus alike fun _ _ same =>
      congrArg detachedStatus same
    apply (lockstep_writeStatus alike cleared).bind
    intro stored storedOther storedAlike
    exact unguarded storedAlike
  · intro _
    exact unguarded alike

theorem detach_lockstep (alike : attachment.untimed = other.untimed) :
    Lockstep (fun _ _ => True) (reconciler.detach attachment) (reconciler.detach other) := by
  have marked (volumeName : String) : Lockstep (fun _ _ => True)
      (reconciler.markDetached attachment >>= fun _ => Action.enqueue .volumes volumeName)
      (reconciler.markDetached other >>= fun _ => Action.enqueue .volumes volumeName) := by
    apply (markDetached_lockstep alike).bind
    intro _ _ _
    exact lockstep_enqueue .volumes volumeName
  unfold detach
  rw [VolumeAttachment.volumeName?_alike alike, VolumeAttachment.name_alike alike,
    VolumeAttachment.metadata_alike alike]
  apply lockstep_ite
  · intro _
    exact lockstep_pure trivial
  · intro _
    apply (attachedNodeId_lockstep alike).bind
    rintro nodeId _ rfl
    cases nodeId with
    | error failure => exact failWith_lockstep alike failure
    | ok nodeId =>
        cases attachment.volumeName? with
        | none => exact failWith_lockstep alike _
        | some volumeName =>
            apply (recording_lockstep alike (detachInputs_lockstep volumeName)).bind
            rintro ⟨volumeId, secrets⟩ ⟨_, secretsOther⟩ rfl
            apply (lockstep_calls (csiDetach_lockstep volumeId nodeId secrets secretsOther)).bind
            rintro result _ rfl
            cases result with
            | ok _ => exact marked volumeName
            | error error =>
                apply lockstep_ite
                · intro _
                  exact marked volumeName
                · intro _
                  exact failWith_lockstep alike _

theorem isInUse_alike (volumeName : String) {attachments others : List VolumeAttachment}
    (alike : attachments.map VolumeAttachment.untimed = others.map VolumeAttachment.untimed) :
    isInUse volumeName others = isInUse volumeName attachments := by
  have seen (attachments : List VolumeAttachment) :
      isInUse volumeName (attachments.map VolumeAttachment.untimed) =
        isInUse volumeName attachments := by
    simp only [isInUse, List.any_map]
    apply congrArg (List.any attachments)
    funext attachment
    rcases attachment with ⟨_, _, _ | status⟩ <;> rfl
  rw [← seen others, ← alike, seen]

theorem releaseVolume_lockstep (volume : PersistentVolume) :
    Lockstep (fun _ _ => True) (reconciler.releaseVolume volume)
      (reconciler.releaseVolume volume) := by
  apply lockstep_ite
  · intro _
    exact lockstep_pure trivial
  · intro _
    apply lockstep_ite
    · intro _
      exact lockstep_pure trivial
    · intro _
      apply lockstep_attachments.bind
      intro attachments others alike
      rw [isInUse_alike volume.name alike]
      apply lockstep_ite
      · intro _
        exact lockstep_pure trivial
      · intro _
        apply (lockstep_writeVolume _ _).bind
        intro _ _ _
        exact lockstep_pure trivial

theorem publication?_lockstep (alike : attachment.untimed = other.untimed) :
    Lockstep Eq (reconciler.publication? attachment) (reconciler.publication? other) := by
  unfold publication?
  rw [VolumeAttachment.volumeName?_alike alike]
  cases attachment.volumeName? with
  | none => exact lockstep_pure rfl
  | some volumeName =>
      apply (lockstep_ask (.volume volumeName) rfl).bind
      rintro found _ rfl
      cases found with
      | none => exact lockstep_pure rfl
      | some volume =>
          dsimp only
          cases volume.handle with
          | error _ => exact lockstep_pure rfl
          | ok handle =>
              apply (attachedNodeId_lockstep alike).bind
              rintro nodeId _ rfl
              cases nodeId <;> exact lockstep_pure rfl

theorem sweepAttachment_lockstep (published : Csi.PublishedVolumes)
    (alike : attachment.untimed = other.untimed) :
    Lockstep (fun _ _ => True) (reconciler.sweepAttachment published attachment)
      (reconciler.sweepAttachment published other) := by
  have swept : reconciler.isSwept other = reconciler.isSwept attachment := by
    unfold isSwept isAddressee VolumeAttachment.isDeleting
    rw [VolumeAttachment.spec_alike alike, VolumeAttachment.metadata_alike alike,
      VolumeAttachment.isAttached_alike alike]
  unfold sweepAttachment
  rw [swept]
  apply lockstep_ite
  · intro _
    apply (publication?_lockstep alike).bind
    rintro publication _ rfl
    cases publication with
    | none => exact lockstep_pure trivial
    | some publication =>
        apply lockstep_ite
        · intro _
          exact lockstep_pure trivial
        · intro _
          have marked := VolumeAttachment.mapStatus_alike
            (fun status => { status with attached := false }) alike fun _ _ same =>
              congrArg (fun status : AttachmentStatus => { status with attached := false }) same
          apply (lockstep_outcome (lockstep_writeStatus alike marked)).bind
          intro _ _ _
          exact lockstep_pure trivial
  · intro _
    exact lockstep_pure trivial

theorem forall₂_alike {attachments others : List VolumeAttachment}
    (alike : attachments.map VolumeAttachment.untimed = others.map VolumeAttachment.untimed) :
    List.Forall₂ (fun attachment other : VolumeAttachment =>
      attachment.untimed = other.untimed) attachments others := by
  have same := List.forall₂_eq_eq_eq.symm ▸ alike
  exact List.forall₂_map_left_iff.mp (List.forall₂_map_right_iff.mp same)

theorem sweep_lockstep (published : Csi.PublishedVolumes) :
    Lockstep (fun _ _ => True) (reconciler.sweep published) (reconciler.sweep published) := by
  apply lockstep_attachments.bind
  intro attachments others alike
  exact lockstep_forM (forall₂_alike alike) fun _ _ =>
    sweepAttachment_lockstep published

end Reconciler

theorem enqueueAll_lockstep : Lockstep (fun _ _ => True) enqueueAll enqueueAll := by
  apply lockstep_attachments.bind
  intro attachments others alike
  have queued : Lockstep (fun _ _ => True)
      (attachments.forM fun attachment => Action.enqueue .attachments attachment.name)
      (others.forM fun attachment => Action.enqueue .attachments attachment.name) := by
    apply lockstep_forM (Reconciler.forall₂_alike alike)
    intro attachment other alike
    rw [VolumeAttachment.name_alike alike]
    exact lockstep_enqueue .attachments attachment.name
  apply queued.bind
  intro _ _ _
  apply (lockstep_ask .volumes rfl).bind
  rintro volumes _ rfl
  have same : List.Forall₂ Eq volumes volumes := List.forall₂_refl volumes
  apply lockstep_forM same
  rintro volume _ rfl
  exact lockstep_enqueue .volumes volume.name

theorem requireQueues_lockstep (ready : Bool) :
    Lockstep (fun _ _ => True) (requireQueues ready) (requireQueues ready) := by
  apply lockstep_ite
  · intro _
    exact lockstep_throw _
  · intro _
    exact lockstep_pure trivial

theorem scheduling_lockstep {work workOther : Action Unit} (queue : QueueName) (key : String)
    (lockstep : Lockstep (fun _ _ => True) work workOther) :
    Lockstep (fun _ _ => True) (scheduling queue key work) (scheduling queue key workOther) := by
  apply (lockstep_outcome lockstep).bind
  intro _ _ ended
  cases ended with
  | ok _ => exact (lockstep_ask (.forget queue key) rfl).mono fun _ _ _ => trivial
  | error failure =>
      apply (lockstep_ask (.retry queue key) rfl).bind
      intro _ _ _
      exact lockstep_throw failure

namespace Reconciler

theorem syncAttachment_lockstep (alike : attachment.untimed = other.untimed) :
    Lockstep (fun _ _ => True) (reconciler.syncAttachment attachment)
      (reconciler.syncAttachment other) := by
  unfold syncAttachment isAddressee VolumeAttachment.isDeleting
  rw [VolumeAttachment.spec_alike alike, VolumeAttachment.metadata_alike alike,
    VolumeAttachment.name_alike alike]
  apply lockstep_ite
  · intro _
    apply (requireQueues_lockstep reconciler.ready).bind
    intro _ _ _
    apply scheduling_lockstep
    apply lockstep_ite
    · intro _
      exact detach_lockstep alike
    · intro _
      exact attach_lockstep alike
  · intro _
    exact lockstep_pure trivial

theorem syncVolume_lockstep (volume : PersistentVolume) :
    Lockstep (fun _ _ => True) (reconciler.syncVolume volume) (reconciler.syncVolume volume) := by
  apply (requireQueues_lockstep reconciler.ready).bind
  intro _ _ _
  exact scheduling_lockstep _ _ (releaseVolume_lockstep volume)

theorem reconcileAll_lockstep :
    Lockstep (fun _ _ => True) reconciler.reconcileAll reconciler.reconcileAll := by
  have closing (listed : Except Failure Unit) : Lockstep (fun _ _ => True)
      (enqueueAll >>= fun _ => Action.ofExcept listed)
      (enqueueAll >>= fun _ => Action.ofExcept listed) := by
    apply enqueueAll_lockstep.bind
    intro _ _ _
    exact (lockstep_ofExcept listed).mono fun _ _ _ => trivial
  apply (requireQueues_lockstep reconciler.ready).bind
  intro _ _ _
  apply lockstep_ite
  · intro _
    apply (lockstep_calls (Program.Lockstep.refl _ (fun _ => rfl)
      fun _ _ _ same => eq_of_heq same)).bind
    rintro published _ rfl
    cases published with
    | ok published =>
        apply (sweep_lockstep published).bind
        intro _ _ _
        exact closing _
    | error error => exact closing _
  · intro _
    exact closing _

/-- Two errands that are the same but for the times of errors on the attachment that is given. -/
inductive Errand.Alike : Errand → Errand → Prop
  | attachment {given other : VolumeAttachment} (alike : given.untimed = other.untimed) :
      Alike (.attachment given) (.attachment other)
  | volume (given : PersistentVolume) : Alike (.volume given) (.volume given)
  | everything : Alike .everything .everything

theorem Errand.Alike.lockstep {errand other : Errand} (alike : errand.Alike other) :
    Lockstep (fun _ _ => True) (errand.work reconciler) (other.work reconciler) := by
  cases alike with
  | attachment alike => exact syncAttachment_lockstep alike
  | volume given => exact syncVolume_lockstep given
  | everything => exact reconcileAll_lockstep

end Reconciler

end Reconcile

end VolumeAttacher
