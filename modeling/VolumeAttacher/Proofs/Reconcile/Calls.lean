import VolumeAttacher.Proofs.Reconcile.Heeding
import VolumeAttacher.Proofs.Reconcile.Stages

/-!
# The calls of a reconciler

The work on an attachment, on a volume, and on everything keeps to the moves of `Reconciler.Move`.
This follows the code of the calls, part by part. Most parts only look at things, which changes
nothing and is allowed in every stage.
-/

namespace VolumeAttacher.Reconcile

theorem looks_ask {request : Request} (isLook : request.isLook) : (Action.ask request).Looks :=
  Action.looks_request request .ok rfl isLook

namespace Reconciler

variable {reconciler : Reconciler}

theorem looks_follows {α : Type} {action : Action α} {ends : α → Stage → Prop}
    {fails : Failure → Stage → Prop} {stage : Stage} (looks : action.Looks)
    (ended : ∀ result, ends result stage) (failed : ∀ failure, fails failure stage) :
    action.Follows reconciler.Move ends fails stage :=
  looks.follows (fun _ isLook => .look isLook) ended failed

/-- Whether an action keeps to the moves of a reconciler from a stage on, wherever it ends. -/
def Keeps (reconciler : Reconciler) {α : Type} (action : Action α) (stage : Stage) : Prop :=
  action.Follows reconciler.Move (fun _ _ => True) (fun _ _ => True) stage

theorem Keeps.follows {α : Type} {action : Action α} {stage : Stage}
    (keeps : reconciler.Keeps action stage) :
    Program.Follows reconciler.Move (fun _ _ => True) action.run stage :=
  Program.Follows.mono keeps fun _ _ _ => trivial

variable {operation : Operation} {attachment : VolumeAttachment} {stage : Stage}

theorem keeps_pure {α : Type} (result : α) (stage : Stage) :
    reconciler.Keeps (pure result : Action α) stage :=
  Action.follows_pure trivial

theorem looks_keeps {α : Type} {action : Action α} (looks : action.Looks) (stage : Stage) :
    reconciler.Keeps action stage :=
  looks_follows looks (fun _ => trivial) fun _ => trivial

/-- A request whose answer does not matter any more. -/
theorem request_keeps {α : Type} (request : Request) (result : request.Answer → Except Failure α)
    {action : Action α}
    (made : action.run = Program.ask request fun answer => Program.done (result answer))
    {later : request.Answer → Stage} (move : reconciler.Move stage request later) :
    reconciler.Keeps action stage := by
  apply Action.follows_request request result made move
  intro answer
  cases result answer with
  | ok value => trivial
  | error failure => trivial

theorem outcome_keeps {α : Type} {action : Action α} (keeps : reconciler.Keeps action stage) :
    reconciler.Keeps action.outcome stage :=
  Action.follows_outcome keeps

theorem keeps_bind {α β : Type} {ends : α → Stage → Prop} {action : Action α}
    {next : α → Action β}
    (follows : action.Follows reconciler.Move ends (fun _ _ => True) stage)
    (keeps : ∀ result after, ends result after → reconciler.Keeps (next result) after) :
    reconciler.Keeps (action >>= next) stage :=
  Action.follows_bind (follows.mono keeps fun _ _ failed => failed)

/-- After a look the rest goes on in the same stage. -/
theorem looks_bind_keeps {α β : Type} {action : Action α} {next : α → Action β}
    (looks : action.Looks) (keeps : ∀ result, reconciler.Keeps (next result) stage) :
    reconciler.Keeps (action >>= next) stage := by
  have stays : action.Follows reconciler.Move (fun _ after => after = stage) (fun _ _ => True)
      stage := looks_follows looks (fun _ => rfl) fun _ => trivial
  apply keeps_bind stays
  intro result after same
  subst same
  exact keeps result

theorem record_keeps (held : stage.copy? = some attachment) (failure : Failure) :
    reconciler.Keeps (record operation attachment failure) stage := by
  apply looks_bind_keeps (looks_ask rfl)
  intro time
  apply keeps_bind
  · exact outcome_keeps (request_keeps (.writeStatus _ _) id rfl (.remark fun attached =>
      ⟨held, by rwa [isAttached_recorded] at attached⟩))
  · intro _ _ _
    exact keeps_pure _ _

theorem failWith_follows {α : Type} {ends : α → Stage → Prop}
    (held : stage.copy? = some attachment) (failure : Failure) :
    (failWith operation attachment failure : Action α).Follows reconciler.Move ends
      (fun _ _ => True) stage :=
  Action.follows_bind ((record_keeps held failure).mono
    (fun _ _ _ => Action.follows_throw trivial) fun _ _ failed => failed)

/-- An action whose failure is recorded, if it fails in a stage with the same copy. -/
theorem recording_follows {α : Type} {ends : α → Stage → Prop} {action : Action α}
    (follows : action.Follows reconciler.Move ends
      (fun _ after => after.copy? = some attachment) stage) :
    (recording operation attachment action).Follows reconciler.Move ends (fun _ _ => True)
      stage := by
  apply Action.follows_bind
  apply Action.follows_outcome
  apply follows.mono
  · intro result after ended
    exact Action.follows_pure ended
  · intro failure after held
    exact failWith_follows held failure

theorem copy?_secured (attachment : VolumeAttachment) :
    (reconciler.secured attachment).copy? = some attachment := by
  unfold secured
  split <;> rfl

theorem copy?_afterLookup (attachment : VolumeAttachment) (volume : Option PersistentVolume) :
    (reconciler.afterLookup attachment volume).copy? = some attachment := by
  cases volume with
  | none => rfl
  | some volume =>
      simp only [afterLookup]
      split
      · exact copy?_secured attachment
      · rfl

theorem protectVolume_follows (attachment : VolumeAttachment) (volume : PersistentVolume) :
    (reconciler.protectVolume volume).Follows reconciler.Move
      (fun _ after => after = reconciler.secured attachment)
      (fun _ after => after.copy? = some attachment)
      (reconciler.afterLookup attachment (some volume)) := by
  unfold protectVolume
  simp only [afterLookup]
  cases volume.metadata.hasFinalizer reconciler.finalizer with
  | true => exact Action.follows_pure rfl
  | false =>
      apply Action.follows_bind
      apply Action.follows_request (.writeVolume _ _) id rfl (.shield attachment volume)
      intro answer
      cases answer with
      | ok stored => exact Action.follows_pure rfl
      | error failure => rfl

theorem protectAttachment_follows (attachment : VolumeAttachment)
    (nodeId : Except Failure String) :
    (reconciler.protectAttachment attachment nodeId).Follows reconciler.Move
      (fun stored after => after = .guarded stored) (fun _ after => after.copy? = some attachment)
      (reconciler.secured attachment) := by
  unfold protectAttachment secured
  split
  · exact Action.follows_pure rfl
  · apply Action.follows_request (.writeAttachment _ _) id rfl (.guard attachment nodeId)
    intro answer
    cases answer with
    | ok stored => rfl
    | error failure => rfl

theorem clearAttachError_keeps (held : stage.copy? = some attachment) :
    reconciler.Keeps (clearAttachError attachment) stage := by
  unfold clearAttachError
  split
  · apply keeps_bind
    · refine request_keeps (.writeStatus _ _) id rfl (.remark fun attached => ⟨held, ?_⟩)
      rw [← attached]
      cases status : attachment.status <;>
        simp [VolumeAttachment.mapStatus, VolumeAttachment.isAttached, status]
    · intro _ _ _
      exact keeps_pure _ _
  · exact keeps_pure _ _

/-- Attaching through the driver publishes the volume, or it fails without having published it as
far as the driver says. -/
theorem csiAttach_follows (attachment : VolumeAttachment) (request : Csi.AttachRequest) :
    (Action.calls (Csi.attach request)).Follows reconciler.Move
      (fun result after => after =
        match result with
        | .ok _ => .published attachment
        | .error _ => .guarded attachment)
      (fun _ _ => True) (.guarded attachment) := by
  unfold Csi.attach
  split
  · exact Action.follows_pure rfl
  · refine ⟨_, .publish attachment _, ?_⟩
    intro answer
    cases answer with
    | ok response => rfl
    | error error => rfl

theorem publish_keeps (attachment : VolumeAttachment) (volume : PersistentVolume)
    (nodeId : Except Failure String) :
    reconciler.Keeps (reconciler.publish attachment volume nodeId) (.guarded attachment) := by
  have requested : (recording .attach attachment
      (reconciler.attachRequest volume nodeId)).Follows reconciler.Move
      (fun _ after => after = .guarded attachment) (fun _ _ => True) (.guarded attachment) :=
    recording_follows (looks_follows (attachRequest_glances volume nodeId).looks (fun _ => rfl)
      fun _ => rfl)
  apply keeps_bind requested
  intro request after same
  subst same
  apply keeps_bind (csiAttach_follows attachment request)
  intro result after same
  subst same
  cases result with
  | error error => exact failWith_follows rfl _
  | ok publishContext =>
      apply keeps_bind
      · exact request_keeps (.writeStatus _ _) id rfl (.confirm attachment publishContext)
      · intro _ _ _
        exact keeps_pure _ _

theorem attach_keeps (attachment : VolumeAttachment) :
    reconciler.Keeps (reconciler.attach attachment) (.attaching attachment) := by
  unfold attach
  split
  · exact failWith_follows rfl _
  next volumeName named =>
      have found : (Action.volume? volumeName).Follows reconciler.Move
          (fun volume after => after = reconciler.afterLookup attachment volume) (fun _ _ => True)
          (.attaching attachment) :=
        Action.follows_request (.volume volumeName) .ok rfl (.find named) fun _ => rfl
      apply keeps_bind found
      intro volume after same
      subst same
      cases volume with
      | none => exact failWith_follows rfl _
      | some volume =>
          dsimp only
          split
          · exact keeps_pure _ _
          · split
            · exact failWith_follows (copy?_afterLookup attachment (some volume)) _
            · apply keeps_bind (recording_follows (protectVolume_follows attachment volume))
              intro _ after same
              subst same
              apply looks_bind_keeps (nodeId_glances _ _).looks
              intro nodeId
              apply keeps_bind (recording_follows (protectAttachment_follows attachment nodeId))
              intro stored after same
              subst same
              split
              · exact clearAttachError_keeps rfl
              · exact publish_keeps stored volume nodeId

theorem markDetached_keeps (attachment : VolumeAttachment) :
    reconciler.Keeps (reconciler.markDetached attachment) (withdrawn attachment) := by
  have unguarded (cleared : VolumeAttachment) : reconciler.Keeps (do
      let _ ← Action.writeAttachment cleared
        { cleared with metadata := cleared.metadata.removeFinalizer reconciler.finalizer })
      (.cleared cleared) := by
    apply keeps_bind
    · exact request_keeps (.writeAttachment _ _) id rfl (.unguard cleared)
    · intro _ _ _
      exact keeps_pure _ _
  unfold markDetached withdrawn
  split
  · have cleared : (Action.writeStatus attachment
        (attachment.mapStatus detachedStatus)).Follows reconciler.Move
        (fun stored after => after = .cleared stored) (fun _ _ => True)
        (.unpublished attachment) := by
      apply Action.follows_request (.writeStatus _ _) id rfl (.clear attachment)
      intro answer
      cases answer with
      | ok stored => rfl
      | error failure => trivial
    apply keeps_bind cleared
    intro stored after same
    subst same
    exact unguarded stored
  · exact unguarded attachment

/-- Detaching through the driver. -/
theorem csiDetach_follows {attachment : VolumeAttachment}
    (carries : attachment.metadata.hasFinalizer reconciler.finalizer) (volumeId nodeId : String)
    (secrets : Table String) :
    (Action.calls (Csi.detach volumeId nodeId secrets)).Follows reconciler.Move
      (fun result after => after =
        match result with
        | .ok _ => withdrawn attachment
        | .error error => if error.isFinal then withdrawn attachment else .detaching attachment)
      (fun _ _ => True) (.detaching attachment) := by
  refine ⟨_, .unpublish carries _, ?_⟩
  intro answer
  cases answer with
  | ok response => rfl
  | error error => rfl

theorem detach_keeps (attachment : VolumeAttachment) :
    reconciler.Keeps (reconciler.detach attachment) (.detaching attachment) := by
  have marked (volumeName : String) : reconciler.Keeps
      (reconciler.markDetached attachment >>= fun _ => Action.enqueue .volumes volumeName)
      (withdrawn attachment) := by
    apply keeps_bind (markDetached_keeps attachment)
    intro _ after _
    exact looks_keeps (looks_ask rfl) after
  unfold detach
  split
  · exact keeps_pure _ _
  next carries =>
      rw [Bool.not_eq_true', Bool.not_eq_false] at carries
      apply looks_bind_keeps (nodeId_glances _ _).looks
      intro nodeId
      cases nodeId with
      | error failure => exact failWith_follows rfl _
      | ok nodeId =>
          dsimp only
          split
          · exact failWith_follows rfl _
          next volumeName named =>
              have inputs : (recording .detach attachment (detachInputs volumeName)).Follows
                  reconciler.Move (fun _ after => after = .detaching attachment) (fun _ _ => True)
                  (.detaching attachment) :=
                recording_follows
                  (looks_follows (detachInputs_glances volumeName).looks (fun _ => rfl)
                    fun _ => rfl)
              apply keeps_bind inputs
              rintro ⟨volumeId, secrets⟩ after same
              subst same
              apply keeps_bind (csiDetach_follows carries volumeId nodeId secrets)
              intro result after same
              subst same
              cases result with
              | ok _ => exact marked volumeName
              | error error =>
                  dsimp only
                  split
                  · exact marked volumeName
                  · exact failWith_follows rfl _

theorem releaseVolume_keeps (volume : PersistentVolume) :
    reconciler.Keeps (reconciler.releaseVolume volume) (.releasing volume) := by
  unfold releaseVolume
  split
  · exact keeps_pure _ _
  · split
    · exact keeps_pure _ _
    · have listed : Action.attachments.Follows reconciler.Move
          (fun attachments after => after = afterSurvey volume attachments) (fun _ _ => True)
          (.releasing volume) :=
        Action.follows_request .attachments .ok rfl (.survey volume) fun _ => rfl
      apply keeps_bind listed
      intro attachments after same
      subst same
      unfold afterSurvey
      split
      · exact keeps_pure _ _
      · apply keeps_bind
        · exact request_keeps (.writeVolume _ _) id rfl (.release volume)
        · intro _ _ _
          exact keeps_pure _ _

theorem sweepAttachment_follows (published : Csi.PublishedVolumes)
    (attachment : VolumeAttachment) :
    (reconciler.sweepAttachment published attachment).Follows reconciler.Move
      (fun _ after => after = .resting) (fun _ after => after = .resting) .resting := by
  unfold sweepAttachment
  split
  · apply Action.follows_bind
    apply looks_follows (publication?_glances attachment).looks
    · intro publication
      split
      · exact Action.follows_pure rfl
      · split
        · exact Action.follows_pure rfl
        · apply Action.follows_bind
          apply Action.follows_outcome
          apply Action.follows_request (.writeStatus _ _) id rfl
          · apply Move.remark
            intro attached
            cases status : attachment.status <;>
              simp [VolumeAttachment.mapStatus, VolumeAttachment.isAttached, status] at attached
          · intro answer
            cases answer with
            | ok stored => exact Action.follows_pure rfl
            | error failure => exact Action.follows_pure rfl
    · intro _
      rfl
  · exact Action.follows_pure rfl

theorem scheduling_keeps (queue : QueueName) (key : String) {work : Action Unit}
    (keeps : reconciler.Keeps work stage) :
    reconciler.Keeps (scheduling queue key work) stage := by
  apply keeps_bind (outcome_keeps keeps)
  intro result after _
  cases result with
  | ok _ => exact looks_keeps (looks_ask rfl) after
  | error failure =>
      exact looks_bind_keeps (looks_ask rfl) fun _ => looks_keeps (Action.looks_throw failure) after

theorem syncAttachment_keeps (attachment : VolumeAttachment) :
    reconciler.Keeps (reconciler.syncAttachment attachment) (opening attachment) := by
  unfold syncAttachment
  split
  · apply looks_bind_keeps (requireQueues_glances _).looks
    intro _
    apply scheduling_keeps
    unfold opening
    split
    · exact detach_keeps attachment
    · exact attach_keeps attachment
  · exact keeps_pure _ _

theorem syncVolume_keeps (volume : PersistentVolume) :
    reconciler.Keeps (reconciler.syncVolume volume) (.releasing volume) := by
  apply looks_bind_keeps (requireQueues_glances _).looks
  intro _
  exact scheduling_keeps _ _ (releaseVolume_keeps volume)

theorem reconcileAll_keeps : reconciler.Keeps reconciler.reconcileAll .resting := by
  have closing (listed : Except Failure Unit) (after : Stage) :
      reconciler.Keeps (enqueueAll >>= fun _ => Action.ofExcept listed) after := by
    apply looks_bind_keeps enqueueAll_glances.looks
    intro _
    exact looks_keeps (Action.looks_ofExcept listed) after
  apply looks_bind_keeps (requireQueues_glances _).looks
  intro _
  split
  · apply looks_bind_keeps (listVolumes_glances _ _).looks
    intro published
    split
    · apply keeps_bind
      · apply looks_bind_keeps (looks_ask rfl)
        intro attachments
        exact (Action.follows_forM fun attachment _ => sweepAttachment_follows _ attachment).mono
          (fun _ _ _ => trivial) fun _ _ _ => trivial
      · intro _ after _
        exact closing _ after
    · exact closing _ _
  · exact closing _ _

/-- A call that a reconciler may be given. -/
inductive Errand where
  | attachment (given : VolumeAttachment)
  | volume (given : PersistentVolume)
  | everything

namespace Errand

def work (reconciler : Reconciler) : Errand → Action Unit
  | .attachment given => reconciler.syncAttachment given
  | .volume given => reconciler.syncVolume given
  | .everything => reconciler.reconcileAll

end Errand

end Reconciler

end VolumeAttacher.Reconcile
