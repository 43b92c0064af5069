import VolumeAttacher.Proofs.Reconcile.Calls
import VolumeAttacher.Proofs.Reconcile.Heeding

/-!
# What the work on an object may do

Laws about the writes of a reconciler differ in what they ask of a write and in what they take for
granted of an answer, but they go through the same code. A `Remit` is what one of them allows: the
requests, the objects that may be worked on, and what each answer tells of these objects. Work on
objects within a remit heeds it, part by part. What only some calls do is left to the calls: calling
the driver to attach or detach a volume, and taking the finalizer off a volume.
-/

namespace VolumeAttacher.Reconcile

/-- The ways in which a reconciler restates the status of an attachment. -/
inductive Restates (status : Option AttachmentStatus) : Option AttachmentStatus → Prop
  | failed (operation : Operation) (error : VolumeError) :
      Restates status (some (operation.recorded error (status.getD {})))
  | attached (publishContext : Table String) :
      Restates status (some (Reconciler.attachedStatus publishContext (status.getD {})))
  | settled : Restates status (status.map fun status => { status with attachError := none })
  | detached : Restates status (status.map Reconciler.detachedStatus)
  | swept : Restates status (status.map fun status => { status with attached := false })

namespace Reconciler

/-- What the work on objects may request and may be told, and the attachments and volumes that it
may work on. -/
structure Remit (reconciler : Reconciler) where
  may : Request → Prop
  told : (request : Request) → request.Answer → Prop
  attachments : VolumeAttachment → Prop
  volumes : PersistentVolume → Prop
  glance {request : Request} : request.isGlance → may request
  shield {volume : PersistentVolume} : volumes volume →
    volume.metadata.hasFinalizer reconciler.finalizer = false →
    may (.writeVolume volume
      { volume with metadata := volume.metadata.addFinalizer reconciler.finalizer })
  guard {attachment : VolumeAttachment} : attachments attachment →
    attachment.metadata.hasFinalizer reconciler.finalizer = false → ∀ nodeId,
    may (.writeAttachment attachment (reconciler.protectedAttachment attachment nodeId))
  unguard {attachment : VolumeAttachment} : attachments attachment →
    may (.writeAttachment attachment
      { attachment with metadata := attachment.metadata.removeFinalizer reconciler.finalizer })
  restate {attachment : VolumeAttachment} {status : Option AttachmentStatus} :
    attachments attachment → Restates attachment.status status →
    may (.writeStatus attachment { attachment with status })
  found {name : String} {volume : PersistentVolume} :
    told (.volume name) (some volume) → volumes volume
  /-- Of the attachments that are listed, those of the driver may be worked on. -/
  listed {attachments' : List VolumeAttachment} : told .attachments attachments' →
    ∀ attachment ∈ attachments', reconciler.isAddressee attachment → attachments attachment
  guarded {old new stored : VolumeAttachment} : attachments old →
    told (.writeAttachment old new) (.ok stored) → attachments stored
  restated {old new stored : VolumeAttachment} : attachments old →
    told (.writeStatus old new) (.ok stored) → attachments stored

namespace Remit

variable {reconciler : Reconciler} (remit : reconciler.Remit) {operation : Operation}
  {attachment : VolumeAttachment} {volume : PersistentVolume}

/-- Whether an action keeps to a remit, and if it does not fail ends with a result that is
wanted. -/
def Works {α : Type} (ends : α → Prop) (action : Action α) : Prop :=
  action.Heeds remit.may remit.told ends

variable {remit}

theorem works_glance {α : Type} {action : Action α} (glances : action.Glances) :
    remit.Works (fun _ => True) action :=
  glances.heeds fun _ => remit.glance

theorem works_request {α : Type} {request : Request} {result : request.Answer → Except Failure α}
    {action : Action α}
    (made : action.run = Program.ask request fun answer => Program.done (result answer))
    (may : remit.may request) : remit.Works (fun _ => True) action :=
  Action.heeds_request request result made may fun _ _ _ _ => trivial

theorem works_bind {α β : Type} {ends : α → Prop} {wanted : β → Prop} {action : Action α}
    {next : α → Action β} (works : remit.Works ends action)
    (worksNext : ∀ value, ends value → remit.Works wanted (next value)) :
    remit.Works wanted (action >>= next) :=
  Action.heeds_bind (works.mono (fun _ => id) (fun _ _ => id) worksNext)

theorem works_pure {α : Type} {ends : α → Prop} {value : α} (ended : ends value) :
    remit.Works ends (pure value : Action α) :=
  Action.heeds_pure ended

theorem works_outcome {α : Type} {action : Action α} (works : remit.Works (fun _ => True) action) :
    remit.Works (fun _ => True) action.outcome :=
  Action.heeds_outcome works fun _ => trivial

theorem works_record (mayWork : remit.attachments attachment) (failure : Failure) :
    remit.Works (fun _ => True) (record operation attachment failure) := by
  apply works_bind (works_glance (Action.glances_ask rfl))
  intro time _
  have written : remit.Works (fun _ => True) (Action.writeStatus attachment
      (attachment.withStatus (operation.recorded
        { message := some failure.message, time := some time }))) :=
    works_request rfl (remit.restate mayWork (.failed operation _))
  apply works_bind (works_outcome written)
  intro _ _
  exact works_pure trivial

theorem works_failWith {α : Type} {ends : α → Prop} (mayWork : remit.attachments attachment)
    (failure : Failure) : remit.Works ends (failWith operation attachment failure : Action α) := by
  apply works_bind (works_record mayWork failure)
  intro _ _
  exact Action.heeds_throw failure

theorem works_recording {α : Type} {ends : α → Prop} {action : Action α}
    (mayWork : remit.attachments attachment) (works : remit.Works ends action) :
    remit.Works ends (recording operation attachment action) := by
  have outcome : remit.Works (fun result => ∀ value, result = .ok value → ends value)
      action.outcome := by
    apply Action.heeds_outcome
    · apply works.mono (fun _ => id) (fun _ _ => id)
      rintro value ended _ ⟨⟩
      exact ended
    · rintro failure _ ⟨⟩
  apply works_bind outcome
  intro result ended
  cases result with
  | ok value => exact works_pure (ended value rfl)
  | error failure => exact works_failWith mayWork failure

theorem works_protectVolume (mayWork : remit.volumes volume) :
    remit.Works (fun _ => True) (reconciler.protectVolume volume) := by
  unfold protectVolume
  split
  next lacks =>
      apply works_bind (works_request rfl (remit.shield mayWork (by simpa using lacks)))
      intro _ _
      exact works_pure trivial
  next => exact works_pure trivial

theorem works_protectAttachment (mayWork : remit.attachments attachment)
    (nodeId : Except Failure String) :
    remit.Works remit.attachments (reconciler.protectAttachment attachment nodeId) := by
  unfold protectAttachment
  split
  next => exact works_pure mayWork
  next lacks =>
      apply Action.heeds_request (.writeAttachment _ _) id rfl
      · exact remit.guard mayWork (by simpa using lacks) nodeId
      · rintro _ stored tells rfl
        exact remit.guarded mayWork tells

theorem works_clearAttachError (mayWork : remit.attachments attachment) :
    remit.Works (fun _ => True) (clearAttachError attachment) := by
  unfold clearAttachError
  split
  · apply works_bind (works_request rfl (remit.restate mayWork .settled))
    intro _ _
    exact works_pure trivial
  · exact works_pure trivial

theorem works_csiAttach (mayCall : ∀ call, remit.may (.call call)) (request : Csi.AttachRequest) :
    remit.Works (fun _ => True) (Action.calls (Csi.attach request)) := by
  apply Action.heeds_calls
  unfold Csi.attach
  split
  · trivial
  · refine ⟨mayCall _, ?_⟩
    intro answer _
    cases answer <;> trivial

theorem works_publish (mayWork : remit.attachments attachment)
    (mayCall : ∀ call, remit.may (.call call)) (volume : PersistentVolume)
    (nodeId : Except Failure String) :
    remit.Works (fun _ => True) (reconciler.publish attachment volume nodeId) := by
  apply works_bind (works_recording mayWork (works_glance (attachRequest_glances volume nodeId)))
  intro request _
  apply works_bind (works_csiAttach mayCall request)
  intro result _
  cases result with
  | error error => exact works_failWith mayWork _
  | ok publishContext =>
      apply works_bind (works_request rfl (remit.restate mayWork (.attached publishContext)))
      intro _ _
      exact works_pure trivial

theorem works_attach (mayWork : remit.attachments attachment)
    (mayCall : ∀ call, remit.may (.call call)) :
    remit.Works (fun _ => True) (reconciler.attach attachment) := by
  unfold attach
  split
  · exact works_failWith mayWork _
  next volumeName _ =>
      have found : remit.Works (fun found => ∀ volume, found = some volume → remit.volumes volume)
          (Action.volume? volumeName) := by
        apply Action.heeds_request (.volume volumeName) .ok rfl (remit.glance rfl)
        rintro _ _ tells ⟨⟩ volume rfl
        exact remit.found tells
      apply works_bind found
      intro found mayWorkVolume
      cases found with
      | none => exact works_failWith mayWork _
      | some volume =>
          dsimp only
          split
          · exact works_pure trivial
          · split
            · exact works_failWith mayWork _
            · apply works_bind (works_recording mayWork
                (works_protectVolume (mayWorkVolume volume rfl)))
              intro _ _
              apply works_bind (works_glance (nodeId_glances _ _))
              intro nodeId _
              apply works_bind (works_recording mayWork (works_protectAttachment mayWork nodeId))
              intro stored mayWorkStored
              split
              · exact works_clearAttachError mayWorkStored
              · exact works_publish mayWorkStored mayCall volume nodeId

theorem works_markDetached (mayWork : remit.attachments attachment) :
    remit.Works (fun _ => True) (reconciler.markDetached attachment) := by
  have unguarded {cleared : VolumeAttachment} (mayWork : remit.attachments cleared) :
      remit.Works (fun _ => True) (do
        let _ ← Action.writeAttachment cleared
          { cleared with metadata := cleared.metadata.removeFinalizer reconciler.finalizer }) := by
    apply works_bind (works_request rfl (remit.unguard mayWork))
    intro _ _
    exact works_pure trivial
  unfold markDetached
  split
  · have cleared : remit.Works remit.attachments
        (Action.writeStatus attachment (attachment.mapStatus detachedStatus)) := by
      apply Action.heeds_request (.writeStatus _ _) id rfl (remit.restate mayWork .detached)
      rintro _ stored tells rfl
      exact remit.restated mayWork tells
    apply works_bind cleared
    intro stored mayWorkStored
    exact unguarded mayWorkStored
  · exact unguarded mayWork

theorem works_detach (mayWork : remit.attachments attachment)
    (mayCall : ∀ call, remit.may (.call call)) :
    remit.Works (fun _ => True) (reconciler.detach attachment) := by
  have marked (volumeName : String) : remit.Works (fun _ => True)
      (reconciler.markDetached attachment >>= fun _ => Action.enqueue .volumes volumeName) := by
    apply works_bind (works_markDetached mayWork)
    intro _ _
    exact works_glance (Action.glances_ask rfl)
  have called (volumeId nodeId : String) (secrets : Table String) :
      remit.Works (fun _ => True) (Action.calls (Csi.detach volumeId nodeId secrets)) := by
    apply Action.heeds_calls
    refine ⟨mayCall _, ?_⟩
    intro answer _
    cases answer <;> trivial
  unfold detach
  split
  · exact works_pure trivial
  · apply works_bind (works_glance (nodeId_glances _ _))
    intro nodeId _
    cases nodeId with
    | error failure => exact works_failWith mayWork _
    | ok nodeId =>
        dsimp only
        split
        · exact works_failWith mayWork _
        next volumeName _ =>
            apply works_bind (works_recording mayWork
              (works_glance (detachInputs_glances volumeName)))
            rintro ⟨volumeId, secrets⟩ _
            apply works_bind (called volumeId nodeId secrets)
            intro result _
            cases result with
            | ok _ => exact marked volumeName
            | error error =>
                dsimp only
                split
                · exact marked volumeName
                · exact works_failWith mayWork _

theorem works_releaseVolume
    (mayRelease : remit.may (.writeVolume volume
      { volume with metadata := volume.metadata.removeFinalizer reconciler.finalizer })) :
    remit.Works (fun _ => True) (reconciler.releaseVolume volume) := by
  unfold releaseVolume
  split
  · exact works_pure trivial
  · split
    · exact works_pure trivial
    · apply works_bind (works_glance (Action.glances_ask rfl))
      intro attachments _
      split
      · exact works_pure trivial
      · apply works_bind (works_request rfl mayRelease)
        intro _ _
        exact works_pure trivial

/-- Only attachments of the driver are looked at, so that it is enough to be allowed those. -/
theorem works_sweepAttachment (published : Csi.PublishedVolumes)
    (mayWork : reconciler.isAddressee attachment → remit.attachments attachment) :
    remit.Works (fun _ => True) (reconciler.sweepAttachment published attachment) := by
  unfold sweepAttachment
  split
  next looksAt =>
      simp only [isSwept, Bool.and_eq_true] at looksAt
      have swept : remit.Works (fun _ => True) (Action.writeStatus attachment
          (attachment.mapStatus fun status => { status with attached := false })) :=
        works_request rfl (remit.restate (mayWork looksAt.1.1) .swept)
      apply works_bind (works_glance (publication?_glances attachment))
      intro publication _
      split
      · exact works_pure trivial
      · split
        · exact works_pure trivial
        · apply works_bind (works_outcome swept)
          intro _ _
          exact works_pure trivial
  next => exact works_pure trivial

theorem works_sweep (published : Csi.PublishedVolumes) :
    remit.Works (fun _ => True) (reconciler.sweep published) := by
  have listed : remit.Works (fun attachments => ∀ attachment ∈ attachments,
      reconciler.isAddressee attachment → remit.attachments attachment) Action.attachments := by
    apply Action.heeds_request .attachments .ok rfl (remit.glance rfl)
    rintro _ _ tells ⟨⟩
    exact remit.listed tells
  apply works_bind listed
  intro attachments mayWork
  exact Action.heeds_forM fun attachment attachmentMem =>
    works_sweepAttachment published (mayWork attachment attachmentMem)

theorem works_reconcileAll : remit.Works (fun _ => True) reconciler.reconcileAll := by
  have closing (listed : Except Failure Unit) : remit.Works (fun _ => True)
      (enqueueAll >>= fun _ => Action.ofExcept listed) := by
    apply works_bind (works_glance enqueueAll_glances)
    intro _ _
    exact Action.heeds_ofExcept listed
  apply works_bind (works_glance (requireQueues_glances _))
  intro _ _
  split
  · apply works_bind (works_glance (listVolumes_glances _ _))
    intro published _
    split
    · apply works_bind (works_sweep _)
      intro _ _
      exact closing _
    · exact closing _
  · exact closing _

/-- Whether a remit covers what a call does with the object that it is given. -/
def Covers (remit : reconciler.Remit) : Errand → Prop
  | .attachment given =>
      reconciler.isAddressee given → remit.attachments given ∧ ∀ call, remit.may (.call call)
  | .volume given =>
      remit.may (.writeVolume given
        { given with metadata := given.metadata.removeFinalizer reconciler.finalizer })
  | .everything => True

theorem heeds_scheduling (queue : QueueName) (key : String) {work : Action Unit}
    (works : remit.Works (fun _ => True) work) :
    (scheduling queue key work).Heeds (fun request => remit.may request ∨ request.isVerdict)
      remit.told fun _ => True := by
  have worked : work.outcome.Heeds (fun request => remit.may request ∨ request.isVerdict)
      remit.told fun _ => True :=
    (works_outcome works).mono (fun _ => Or.inl) (fun _ _ => id) fun _ => id
  have verdict {request : Request} (isVerdict : request.isVerdict) :
      (Action.ask request).Heeds (fun request => remit.may request ∨ request.isVerdict)
        remit.told fun _ => True :=
    Action.heeds_request request .ok rfl (.inr isVerdict) fun _ _ _ _ => trivial
  apply Action.heeds_bind
  apply worked.mono (fun _ => id) (fun _ _ => id)
  intro result _
  cases result with
  | ok _ => exact verdict rfl
  | error failure =>
      apply Action.heeds_bind
      apply (verdict rfl).mono (fun _ => id) (fun _ _ => id)
      intro _ _
      exact Action.heeds_throw failure

/-- Every call keeps to a remit that covers it, but for its verdict. -/
theorem Covers.heeds {errand : Errand} (covers : remit.Covers errand) :
    (errand.work reconciler).Heeds (fun request => remit.may request ∨ request.isVerdict)
      remit.told fun _ => True := by
  have checks : (requireQueues reconciler.ready).Heeds
      (fun request => remit.may request ∨ request.isVerdict) remit.told fun _ => True :=
    (requireQueues_glances _).heeds fun _ isGlance => .inl (remit.glance isGlance)
  cases errand with
  | attachment given =>
      change (reconciler.syncAttachment given).Heeds _ _ _
      unfold syncAttachment
      split
      next isAddressee =>
          rcases covers isAddressee with ⟨mayWork, mayCall⟩
          apply Action.heeds_bind
          apply checks.mono (fun _ => id) (fun _ _ => id)
          intro _ _
          apply heeds_scheduling
          split
          · exact works_detach mayWork mayCall
          · exact works_attach mayWork mayCall
      next => exact Action.heeds_pure trivial
  | volume given =>
      apply Action.heeds_bind
      apply checks.mono (fun _ => id) (fun _ _ => id)
      intro _ _
      exact heeds_scheduling _ _ (works_releaseVolume covers)
  | everything => exact works_reconcileAll.mono (fun _ => Or.inl) (fun _ _ => id) fun _ => id

end Remit

end Reconciler

end VolumeAttacher.Reconcile
