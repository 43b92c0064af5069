import VolumeAttacher.Proofs.Reconcile.Endings

/-!
# The courses that the work on an attachment may take

Attaching and detaching come to an end at many places. `AttachEnds` and `DetachEnds` list them, each
with all that is known by then, so that what is shown of the work on an attachment is shown course
by course without looking at the programs again.
-/

namespace VolumeAttacher.Reconcile

variable {circumstances : Circumstances} {reconciler : Reconciler} {before after : Site}
  {attachment : VolumeAttachment} {result : Except Failure Unit}

/-- A failure is saved in the status of an attachment, if the write is not refused. -/
def Records (circumstances : Circumstances) (operation : Operation)
    (attachment : VolumeAttachment) (failure : Failure) (before after : Site) : Prop :=
  ∃ time answer, Site.Answered circumstances
    (.writeStatus attachment
      (attachment.withStatus (operation.recorded ⟨some failure.message, some time⟩)))
    before answer after

theorem record_ends {operation : Operation} {failure : Failure}
    (ends : (record operation attachment failure).Ends circumstances before result after) :
    result = .ok () ∧ Records circumstances operation attachment failure before after := by
  unfold record at ends
  rw [Action.ends_bind] at ends
  rcases ends with ⟨time, middle, told, ends⟩ | ⟨failure, told, _⟩
  · rcases Action.ends_note .currentTime (fun _ _ => Iff.rfl) told with ⟨rfl, _⟩
    dsimp only at ends
    rw [Action.ends_bind] at ends
    rcases ends with ⟨outcome, later, written, rfl, rfl⟩ | ⟨failure, written, _⟩
    · rcases (Action.ends_outcome _).mp written with ⟨answer, written, _⟩
      exact ⟨rfl, time, answer, (Action.ends_writeStatus _ _).mp written⟩
    · rcases (Action.ends_outcome _).mp written with ⟨answer, _, same⟩
      contradiction
  · rcases Action.ends_note .currentTime (fun _ _ => Iff.rfl) told with ⟨_, answer, same⟩
    contradiction

theorem failWith_ends {α : Type} {result : Except Failure α} {operation : Operation}
    {failure : Failure}
    (ends : (failWith operation attachment failure).Ends circumstances before result after) :
    result = .error failure ∧ Records circumstances operation attachment failure before after := by
  unfold failWith at ends
  rw [Action.ends_bind] at ends
  rcases ends with ⟨_, middle, recorded, rfl, rfl⟩ | ⟨failure, recorded, _⟩
  · exact ⟨rfl, (record_ends recorded).2⟩
  · exact absurd (record_ends recorded).1 (by simp)

theorem recording_ends {α : Type} {result : Except Failure α} {operation : Operation}
    {action : Action α}
    (ends : (recording operation attachment action).Ends circumstances before result after) :
    (∃ value, result = .ok value ∧ action.Ends circumstances before (.ok value) after) ∨
      ∃ failure middle, result = .error failure ∧
        action.Ends circumstances before (.error failure) middle ∧
        Records circumstances operation attachment failure middle after := by
  unfold recording at ends
  rw [Action.ends_bind] at ends
  rcases ends with ⟨outcome, middle, ended, ends⟩ | ⟨failure, ended, _⟩
  · rcases (Action.ends_outcome _).mp ended with ⟨same, ended, isOutcome⟩
    cases isOutcome
    cases outcome with
    | ok value =>
        rcases ends with ⟨rfl, rfl⟩
        exact .inl ⟨value, rfl, ended⟩
    | error failure =>
        rcases failWith_ends ends with ⟨rfl, records⟩
        exact .inr ⟨failure, middle, rfl, ended, records⟩
  · rcases (Action.ends_outcome _).mp ended with ⟨_, _, same⟩
    contradiction

/-- Work goes on with what has not failed, and ends with the record of what has. -/
theorem recording_bind_ends {α β : Type} {result : Except Failure β} {operation : Operation}
    {action : Action α} {next : α → Action β}
    (ends : (recording operation attachment action >>= next).Ends circumstances before result
      after) :
    (∃ value middle, action.Ends circumstances before (.ok value) middle ∧
        (next value).Ends circumstances middle result after) ∨
      ∃ failure middle, result = .error failure ∧
        action.Ends circumstances before (.error failure) middle ∧
        Records circumstances operation attachment failure middle after := by
  rw [Action.ends_bind] at ends
  rcases ends with ⟨value, middle, recorded, ends⟩ | ⟨failure, recorded, rfl⟩
  · rcases recording_ends recorded with ⟨_, same, ended⟩ | ⟨_, _, same, _⟩
    · cases same
      exact .inl ⟨value, middle, ended, ends⟩
    · contradiction
  · rcases recording_ends recorded with ⟨_, same, _⟩ | ⟨_, middle, same, ended, records⟩
    · contradiction
    · cases same
      exact .inr ⟨failure, middle, rfl, ended, records⟩

namespace Site

/-- The site after a call to the driver. -/
def called (site : Site) (call : Csi.Call) : Site :=
  { site with calls := call :: site.calls }

end Site

/-- The call with which a volume is attached. -/
def publishCall (request : Csi.AttachRequest) : Csi.Call :=
  .publish {
    volumeId := request.volumeId
    nodeId := request.nodeId
    volumeCapability := some request.capability.toMessage
    readonly := request.readOnly
    secrets := request.secrets
    volumeContext := request.volumeContext }

/-- Why the driver is not asked to attach a volume. -/
def withoutNames : Csi.Error :=
  .invalidArgument "volume ID and node ID are required for attach"

theorem csiAttach_ends {request : Csi.AttachRequest}
    {result : Except Failure (Except Csi.Error (Table String))}
    (ends : (Action.calls (Csi.attach request)).Ends circumstances before result after) :
    ((request.volumeId.isEmpty || request.nodeId.isEmpty) = true ∧
        result = .ok (.error withoutNames) ∧ after = before) ∨
      ((request.volumeId.isEmpty || request.nodeId.isEmpty) = false ∧
        after = before.called (publishCall request) ∧
        ∃ answer : Except Csi.Error Csi.PublishResponse,
          circumstances.replies (publishCall request) answer ∧
          result = .ok (answer.map Csi.PublishResponse.publishContext)) := by
  unfold Csi.attach at ends
  cases nameless : request.volumeId.isEmpty || request.nodeId.isEmpty with
  | true =>
      rw [nameless] at ends
      rcases ends with ⟨rfl, rfl⟩
      exact .inl ⟨rfl, rfl, rfl⟩
  | false =>
      rw [nameless] at ends
      rcases ends with ⟨answer, middle, ⟨reply, rfl⟩, ends⟩
      refine .inr ⟨rfl, ?_⟩
      cases answer with
      | ok response =>
          rcases ends with ⟨rfl, rfl⟩
          exact ⟨rfl, .ok response, reply, rfl⟩
      | error error =>
          rcases ends with ⟨rfl, rfl⟩
          exact ⟨rfl, .error error, reply, rfl⟩

theorem csiDetach_ends {volumeId nodeId : String} {secrets : Table String}
    {result : Except Failure (Except Csi.Error Unit)}
    (ends : (Action.calls (Csi.detach volumeId nodeId secrets)).Ends circumstances before result
      after) :
    after = before.called (.unpublish { volumeId, nodeId, secrets }) ∧
      ∃ answer : Except Csi.Error Csi.UnpublishResponse,
        circumstances.replies (.unpublish { volumeId, nodeId, secrets }) answer ∧
        result = .ok (answer.map fun _ => ()) := by
  rcases ends with ⟨answer, middle, ⟨reply, rfl⟩, ends⟩
  cases answer with
  | ok response =>
      rcases ends with ⟨rfl, rfl⟩
      exact ⟨rfl, .ok response, reply, rfl⟩
  | error error =>
      rcases ends with ⟨rfl, rfl⟩
      exact ⟨rfl, .error error, reply, rfl⟩

/-- The request that is sent to the driver, or why none is sent. -/
def Backdrop.sentRequest (backdrop : Backdrop) (reconciler : Reconciler)
    (volume : PersistentVolume) (nodeId : Except Failure String) :
    Except Failure Csi.AttachRequest :=
  match backdrop.attachRequest reconciler volume nodeId with
  | .error failure => .error failure
  | .ok request =>
      if request.volumeId.isEmpty || request.nodeId.isEmpty then .error (.csi withoutNames)
      else .ok request

/-- The courses of attaching the volume of an attachment that is protected and not yet attached. -/
inductive PublishEnds (circumstances : Circumstances) (reconciler : Reconciler)
    (attachment : VolumeAttachment) (volume : PersistentVolume) (nodeId : Except Failure String)
    (before : Site) : Except Failure Unit → Site → Prop
  | unsent {failure : Failure} {after : Site}
      (unsent : before.backdrop.sentRequest reconciler volume nodeId = .error failure)
      (records : Records circumstances .attach attachment failure before after) :
      PublishEnds circumstances reconciler attachment volume nodeId before (.error failure) after
  | failed {request : Csi.AttachRequest} {error : Csi.Error} {after : Site}
      (sent : before.backdrop.sentRequest reconciler volume nodeId = .ok request)
      (reply : circumstances.replies (publishCall request)
        (.error error : Except Csi.Error Csi.PublishResponse))
      (records : Records circumstances .attach attachment (.csi error)
        (before.called (publishCall request)) after) :
      PublishEnds circumstances reconciler attachment volume nodeId before (.error (.csi error))
        after
  | confirmed {request : Csi.AttachRequest} {response : Csi.PublishResponse}
      {written : Except Failure VolumeAttachment} {after : Site}
      (sent : before.backdrop.sentRequest reconciler volume nodeId = .ok request)
      (reply : circumstances.replies (publishCall request)
        (.ok response : Except Csi.Error Csi.PublishResponse))
      (confirms : Site.Answered circumstances
        (.writeStatus attachment
          (attachment.withStatus (Reconciler.attachedStatus response.publishContext)))
        (before.called (publishCall request)) written after) :
      PublishEnds circumstances reconciler attachment volume nodeId before
        (written.map fun _ => ()) after

theorem publish_ends {volume : PersistentVolume} {nodeId : Except Failure String}
    (ends : (reconciler.publish attachment volume nodeId).Ends circumstances before result after) :
    PublishEnds circumstances reconciler attachment volume nodeId before result after := by
  unfold Reconciler.publish at ends
  rcases recording_bind_ends ends with
    ⟨request, middle, looked, rest⟩ | ⟨failure, middle, rfl, looked, records⟩
  · rcases (attachRequest_ends _ _).mp looked with ⟨isRequest, rfl⟩
    rw [Action.ends_bind] at rest
    rcases rest with ⟨outcome, later, called, rest⟩ | ⟨failure, called, _⟩
    · rcases csiAttach_ends called with
        ⟨nameless, same, rfl⟩ | ⟨named, rfl, answer, reply, same⟩
      · cases same
        rcases failWith_ends rest with ⟨rfl, records⟩
        refine .unsent ?_ records
        rw [Backdrop.sentRequest, ← isRequest]
        exact if_pos nameless
      · have sent : middle.backdrop.sentRequest reconciler volume nodeId = .ok request := by
          rw [Backdrop.sentRequest, ← isRequest]
          exact if_neg (ne_true_of_eq_false named)
        cases same
        cases answer with
        | error error =>
            rcases failWith_ends rest with ⟨rfl, records⟩
            exact .failed sent reply records
        | ok response =>
            rcases (Action.ends_discard (Action.writeStatus attachment _)).mp rest with
              ⟨written, confirms, rfl⟩
            exact .confirmed sent reply ((Action.ends_writeStatus _ _).mp confirms)
    · rcases csiAttach_ends called with ⟨_, same, _⟩ | ⟨_, _, _, _, same⟩ <;> contradiction
  · rcases (attachRequest_ends _ _).mp looked with ⟨isFailure, rfl⟩
    refine .unsent ?_ records
    rw [Backdrop.sentRequest, ← isFailure]

/-- Whether attaching an attachment is the driver's work on a volume that is not to be deleted. -/
structure Engages (reconciler : Reconciler) (attachment : VolumeAttachment) (volumeName : String)
    (volume : PersistentVolume) (site : Site) : Prop where
  named : attachment.volumeName? = some volumeName
  found : Table.find? site.volumes volumeName = some volume
  owned : volume.isOwnedBy reconciler.driver = true
  notDeleting : volume.metadata.isDeleting = false

/-- The courses of attaching the volume of an attachment. -/
inductive AttachEnds (circumstances : Circumstances) (reconciler : Reconciler)
    (attachment : VolumeAttachment) (before : Site) : Except Failure Unit → Site → Prop
  | noVolume {after : Site} (unnamed : attachment.volumeName? = none)
      (records : Records circumstances .attach attachment
        (.invalidVolume (.noVolume attachment.name)) before after) :
      AttachEnds circumstances reconciler attachment before
        (.error (.invalidVolume (.noVolume attachment.name))) after
  | missing {volumeName : String} {after : Site}
      (named : attachment.volumeName? = some volumeName)
      (missing : Table.find? before.volumes volumeName = none)
      (records : Records circumstances .attach attachment
        (.notFound .persistentVolume volumeName) before after) :
      AttachEnds circumstances reconciler attachment before
        (.error (.notFound .persistentVolume volumeName)) after
  | foreign {volumeName : String} {volume : PersistentVolume}
      (named : attachment.volumeName? = some volumeName)
      (found : Table.find? before.volumes volumeName = some volume)
      (foreign : volume.isOwnedBy reconciler.driver = false) :
      AttachEnds circumstances reconciler attachment before (.ok ()) before
  | deleting {volumeName : String} {volume : PersistentVolume} {after : Site}
      (named : attachment.volumeName? = some volumeName)
      (found : Table.find? before.volumes volumeName = some volume)
      (owned : volume.isOwnedBy reconciler.driver = true)
      (deleting : volume.metadata.isDeleting = true)
      (records : Records circumstances .attach attachment
        (.invalidVolume (.deleting volumeName)) before after) :
      AttachEnds circumstances reconciler attachment before
        (.error (.invalidVolume (.deleting volumeName))) after
  | unshielded {volumeName : String} {volume : PersistentVolume} {failure : Failure}
      {middle after : Site} (engages : Engages reconciler attachment volumeName volume before)
      (shield : (reconciler.protectVolume volume).Ends circumstances before (.error failure)
        middle)
      (records : Records circumstances .attach attachment failure middle after) :
      AttachEnds circumstances reconciler attachment before (.error failure) after
  | unguarded {volumeName : String} {volume : PersistentVolume} {failure : Failure}
      {shielded middle after : Site}
      (engages : Engages reconciler attachment volumeName volume before)
      (shield : (reconciler.protectVolume volume).Ends circumstances before (.ok ()) shielded)
      (guard : (reconciler.protectAttachment attachment
        (shielded.backdrop.nodeId reconciler attachment.spec.nodeName none)).Ends circumstances
          shielded (.error failure) middle)
      (records : Records circumstances .attach attachment failure middle after) :
      AttachEnds circumstances reconciler attachment before (.error failure) after
  | attached {volumeName : String} {volume : PersistentVolume} {copy : VolumeAttachment}
      {shielded guarded after : Site} {result : Except Failure Unit}
      (engages : Engages reconciler attachment volumeName volume before)
      (shield : (reconciler.protectVolume volume).Ends circumstances before (.ok ()) shielded)
      (guard : (reconciler.protectAttachment attachment
        (shielded.backdrop.nodeId reconciler attachment.spec.nodeName none)).Ends circumstances
          shielded (.ok copy) guarded)
      (attached : copy.isAttached = true)
      (clear : (Reconciler.clearAttachError copy).Ends circumstances guarded result after) :
      AttachEnds circumstances reconciler attachment before result after
  | published {volumeName : String} {volume : PersistentVolume} {copy : VolumeAttachment}
      {shielded guarded after : Site} {result : Except Failure Unit}
      (engages : Engages reconciler attachment volumeName volume before)
      (shield : (reconciler.protectVolume volume).Ends circumstances before (.ok ()) shielded)
      (guard : (reconciler.protectAttachment attachment
        (shielded.backdrop.nodeId reconciler attachment.spec.nodeName none)).Ends circumstances
          shielded (.ok copy) guarded)
      (notAttached : copy.isAttached = false)
      (publish : PublishEnds circumstances reconciler copy volume
        (shielded.backdrop.nodeId reconciler attachment.spec.nodeName none) guarded result after) :
      AttachEnds circumstances reconciler attachment before result after

theorem attach_ends
    (ends : (reconciler.attach attachment).Ends circumstances before result after) :
    AttachEnds circumstances reconciler attachment before result after := by
  unfold Reconciler.attach at ends
  split at ends
  next unnamed =>
      rcases failWith_ends ends with ⟨rfl, records⟩
      exact .noVolume unnamed records
  next volumeName named =>
      rw [Action.ends_bind_look fun _ _ => Action.ends_volume? volumeName] at ends
      dsimp only [Action.GoesOn] at ends
      split at ends
      next missing =>
          rcases failWith_ends ends with ⟨rfl, records⟩
          exact .missing named missing records
      next volume found =>
          split at ends
          next foreign =>
              rcases ends with ⟨rfl, rfl⟩
              exact .foreign named found (by simpa using foreign)
          next owned =>
              have owned : volume.isOwnedBy reconciler.driver = true := by simpa using owned
              split at ends
              next deleting =>
                  rcases failWith_ends ends with ⟨rfl, records⟩
                  exact .deleting named found owned deleting records
              next notDeleting =>
                  have engages : Engages reconciler attachment volumeName volume before :=
                    ⟨named, found, owned, by simpa using notDeleting⟩
                  rcases recording_bind_ends ends with
                    ⟨_, shielded, shield, rest⟩ | ⟨failure, middle, rfl, shield, records⟩
                  · rw [Action.ends_bind_look fun _ _ => nodeId_ends _ _] at rest
                    dsimp only [Action.GoesOn] at rest
                    rcases recording_bind_ends rest with
                      ⟨copy, guarded, guard, rest⟩ | ⟨failure, middle, rfl, guard, records⟩
                    · split at rest
                      next attached => exact .attached engages shield guard attached rest
                      next notAttached =>
                          exact .published engages shield guard (by simpa using notAttached)
                            (publish_ends rest)
                    · exact .unguarded engages shield guard records
                  · exact .unshielded engages shield records

/-- The courses of marking an attachment as detached: its status is cleared if it says anything that
is not so, and then the finalizer is taken off. -/
inductive MarkEnds (circumstances : Circumstances) (reconciler : Reconciler)
    (attachment : VolumeAttachment) (before : Site) : Except Failure Unit → Site → Prop
  | uncleared {failure : Failure} {after : Site}
      (stale : attachment.status.any Reconciler.isStale = true)
      (clears : Site.Answered circumstances
        (.writeStatus attachment (attachment.mapStatus Reconciler.detachedStatus)) before
        (.error failure : Except Failure VolumeAttachment) after) :
      MarkEnds circumstances reconciler attachment before (.error failure) after
  | released {cleared : VolumeAttachment} {middle after : Site}
      {written : Except Failure VolumeAttachment}
      (clears : attachment.status.any Reconciler.isStale = true ∧
          Site.Answered circumstances
            (.writeStatus attachment (attachment.mapStatus Reconciler.detachedStatus)) before
            (.ok cleared : Except Failure VolumeAttachment) middle ∨
        attachment.status.any Reconciler.isStale = false ∧ cleared = attachment ∧ middle = before)
      (releases : Site.Answered circumstances
        (.writeAttachment cleared
          { cleared with metadata := cleared.metadata.removeFinalizer reconciler.finalizer })
        middle written after) :
      MarkEnds circumstances reconciler attachment before (written.map fun _ => ()) after

theorem markDetached_ends
    (ends : (reconciler.markDetached attachment).Ends circumstances before result after) :
    MarkEnds circumstances reconciler attachment before result after := by
  unfold Reconciler.markDetached at ends
  dsimp only at ends
  split at ends
  next stale =>
      rw [Action.ends_bind] at ends
      rcases ends with ⟨cleared, middle, clears, ends⟩ | ⟨failure, clears, rfl⟩
      · rcases (Action.ends_discard (Action.writeAttachment cleared _)).mp ends with
          ⟨written, releases, rfl⟩
        exact .released (.inl ⟨stale, (Action.ends_writeStatus _ _).mp clears⟩)
          ((Action.ends_writeAttachment _ _).mp releases)
      · exact .uncleared stale ((Action.ends_writeStatus _ _).mp clears)
  next fresh =>
      rcases (Action.ends_discard (Action.writeAttachment attachment _)).mp ends with
        ⟨written, releases, rfl⟩
      exact .released (.inr ⟨by simpa using fresh, rfl, rfl⟩)
        ((Action.ends_writeAttachment _ _).mp releases)

/-- The courses of detaching the volume of an attachment. -/
inductive DetachEnds (circumstances : Circumstances) (reconciler : Reconciler)
    (attachment : VolumeAttachment) (before : Site) : Except Failure Unit → Site → Prop
  | unguarded (unguarded : attachment.metadata.hasFinalizer reconciler.finalizer = false) :
      DetachEnds circumstances reconciler attachment before (.ok ()) before
  | unknownNode {failure : Failure} {after : Site}
      (carries : attachment.metadata.hasFinalizer reconciler.finalizer = true)
      (unknown : before.backdrop.nodeId reconciler attachment.spec.nodeName
        (attachment.metadata.annotation? attachedNodeIdAnnotation) = .error failure)
      (records : Records circumstances .detach attachment failure before after) :
      DetachEnds circumstances reconciler attachment before (.error failure) after
  | noVolume {nodeId : String} {after : Site}
      (carries : attachment.metadata.hasFinalizer reconciler.finalizer = true)
      (known : before.backdrop.nodeId reconciler attachment.spec.nodeName
        (attachment.metadata.annotation? attachedNodeIdAnnotation) = .ok nodeId)
      (unnamed : attachment.volumeName? = none)
      (records : Records circumstances .detach attachment
        (.invalidVolume (.noVolume attachment.name)) before after) :
      DetachEnds circumstances reconciler attachment before
        (.error (.invalidVolume (.noVolume attachment.name))) after
  | unprepared {nodeId volumeName : String} {failure : Failure} {after : Site}
      (carries : attachment.metadata.hasFinalizer reconciler.finalizer = true)
      (known : before.backdrop.nodeId reconciler attachment.spec.nodeName
        (attachment.metadata.annotation? attachedNodeIdAnnotation) = .ok nodeId)
      (named : attachment.volumeName? = some volumeName)
      (unprepared : before.backdrop.detachInputs volumeName
        (Table.find? before.volumes volumeName) = .error failure)
      (records : Records circumstances .detach attachment failure before after) :
      DetachEnds circumstances reconciler attachment before (.error failure) after
  | failed {nodeId volumeName volumeId : String} {secrets : Table String} {error : Csi.Error}
      {after : Site} (carries : attachment.metadata.hasFinalizer reconciler.finalizer = true)
      (known : before.backdrop.nodeId reconciler attachment.spec.nodeName
        (attachment.metadata.annotation? attachedNodeIdAnnotation) = .ok nodeId)
      (named : attachment.volumeName? = some volumeName)
      (prepared : before.backdrop.detachInputs volumeName
        (Table.find? before.volumes volumeName) = .ok (volumeId, secrets))
      (reply : circumstances.replies (.unpublish { volumeId, nodeId, secrets })
        (.error error : Except Csi.Error Csi.UnpublishResponse))
      (notFinal : error.isFinal = false)
      (records : Records circumstances .detach attachment (.csi error)
        (before.called (.unpublish { volumeId, nodeId, secrets })) after) :
      DetachEnds circumstances reconciler attachment before (.error (.csi error)) after
  | detached {nodeId volumeName volumeId : String} {secrets : Table String}
      {answer : Except Csi.Error Csi.UnpublishResponse} {result : Except Failure Unit}
      {after : Site} (carries : attachment.metadata.hasFinalizer reconciler.finalizer = true)
      (known : before.backdrop.nodeId reconciler attachment.spec.nodeName
        (attachment.metadata.annotation? attachedNodeIdAnnotation) = .ok nodeId)
      (named : attachment.volumeName? = some volumeName)
      (prepared : before.backdrop.detachInputs volumeName
        (Table.find? before.volumes volumeName) = .ok (volumeId, secrets))
      (reply : circumstances.replies (.unpublish { volumeId, nodeId, secrets }) answer)
      (final : ∀ error, answer = .error error → error.isFinal = true)
      (marks : MarkEnds circumstances reconciler attachment
        (before.called (.unpublish { volumeId, nodeId, secrets })) result after) :
      DetachEnds circumstances reconciler attachment before result after

/-- After an attachment has been marked as detached its volume is only added to a queue. -/
theorem mark_and_enqueue_ends {volumeName : String}
    (ends : (do
      reconciler.markDetached attachment
      Action.enqueue .volumes volumeName).Ends circumstances before result after) :
    MarkEnds circumstances reconciler attachment before result after := by
  rw [Action.ends_bind] at ends
  rcases ends with ⟨_, middle, marks, ends⟩ | ⟨failure, marks, rfl⟩
  · rcases Action.ends_note (.enqueue .volumes volumeName) (fun _ _ => Iff.rfl) ends with
      ⟨rfl, _, rfl⟩
    exact markDetached_ends marks
  · exact markDetached_ends marks

theorem detach_ends
    (ends : (reconciler.detach attachment).Ends circumstances before result after) :
    DetachEnds circumstances reconciler attachment before result after := by
  unfold Reconciler.detach at ends
  split at ends
  next unguarded =>
      rcases ends with ⟨rfl, rfl⟩
      exact .unguarded (by simpa using unguarded)
  next carries =>
      have carries : attachment.metadata.hasFinalizer reconciler.finalizer = true := by
        simpa using carries
      unfold Reconciler.attachedNodeId at ends
      rw [Action.ends_bind_look fun _ _ => nodeId_ends _ _] at ends
      dsimp only [Action.GoesOn] at ends
      split at ends
      next failure unknown =>
          rcases failWith_ends ends with ⟨rfl, records⟩
          exact .unknownNode carries unknown records
      next nodeId known =>
          split at ends
          next unnamed =>
              rcases failWith_ends ends with ⟨rfl, records⟩
              exact .noVolume carries known unnamed records
          next volumeName named =>
              rcases recording_bind_ends ends with
                ⟨inputs, middle, looked, rest⟩ | ⟨failure, middle, rfl, looked, records⟩
              · rcases (detachInputs_ends _).mp looked with ⟨isInputs, rfl⟩
                rw [Action.ends_bind] at rest
                rcases rest with ⟨outcome, later, called, rest⟩ | ⟨failure, called, _⟩
                · rcases csiDetach_ends called with ⟨rfl, answer, reply, same⟩
                  cases same
                  cases answer with
                  | ok response =>
                      exact .detached carries known named isInputs.symm reply
                        (fun error same => by contradiction) (mark_and_enqueue_ends rest)
                  | error error =>
                      dsimp only [Except.map] at rest
                      split at rest
                      next final =>
                          refine .detached carries known named isInputs.symm reply ?_
                            (mark_and_enqueue_ends rest)
                          intro other same
                          cases same
                          exact final
                      next notFinal =>
                          rcases failWith_ends rest with ⟨rfl, records⟩
                          exact .failed carries known named isInputs.symm reply
                            (by simpa using notFinal) records
                · rcases csiDetach_ends called with ⟨_, _, _, same⟩
                  contradiction
              · rcases (detachInputs_ends _).mp looked with ⟨isFailure, rfl⟩
                exact .unprepared carries known named isFailure.symm records

/-- Scheduling the work on a key changes nothing of how it ends. -/
theorem scheduling_ends {queue : QueueName} {key : String} {work : Action Unit}
    (ends : (scheduling queue key work).Ends circumstances before result after) :
    work.Ends circumstances before result after := by
  unfold scheduling at ends
  rw [Action.ends_bind] at ends
  rcases ends with ⟨outcome, middle, ended, ends⟩ | ⟨failure, ended, _⟩
  · rcases (Action.ends_outcome _).mp ended with ⟨same, ended, isOutcome⟩
    cases isOutcome
    cases outcome with
    | ok value =>
        rcases Action.ends_note (.forget queue key) (fun _ _ => Iff.rfl) ends with ⟨rfl, _, rfl⟩
        exact ended
    | error failure =>
        dsimp only at ends
        rw [Action.ends_bind] at ends
        rcases ends with ⟨_, later, retried, rfl, rfl⟩ | ⟨other, retried, _⟩
        · rcases Action.ends_note (.retry queue key) (fun _ _ => Iff.rfl) retried with ⟨rfl, _⟩
          exact ended
        · rcases Action.ends_note (.retry queue key) (fun _ _ => Iff.rfl) retried with
            ⟨_, _, same⟩
          contradiction
  · rcases (Action.ends_outcome _).mp ended with ⟨_, _, same⟩
    contradiction

/-- The courses of the work on an attachment. -/
inductive SyncEnds (circumstances : Circumstances) (reconciler : Reconciler)
    (attachment : VolumeAttachment) (before : Site) : Except Failure Unit → Site → Prop
  | foreign (foreign : reconciler.isAddressee attachment = false) :
      SyncEnds circumstances reconciler attachment before (.ok ()) before
  | notReady (addressee : reconciler.isAddressee attachment = true)
      (notReady : reconciler.ready = false) :
      SyncEnds circumstances reconciler attachment before (.error (.settings .notReady)) before
  | attach {result : Except Failure Unit} {after : Site}
      (addressee : reconciler.isAddressee attachment = true) (ready : reconciler.ready = true)
      (notDeleting : attachment.isDeleting = false)
      (ends : AttachEnds circumstances reconciler attachment before result after) :
      SyncEnds circumstances reconciler attachment before result after
  | detach {result : Except Failure Unit} {after : Site}
      (addressee : reconciler.isAddressee attachment = true) (ready : reconciler.ready = true)
      (deleting : attachment.isDeleting = true)
      (ends : DetachEnds circumstances reconciler attachment before result after) :
      SyncEnds circumstances reconciler attachment before result after

theorem syncAttachment_ends
    (ends : (reconciler.syncAttachment attachment).Ends circumstances before result after) :
    SyncEnds circumstances reconciler attachment before result after := by
  unfold Reconciler.syncAttachment at ends
  split at ends
  next addressee =>
      rw [Action.ends_bind] at ends
      cases ready : reconciler.ready with
      | true =>
          rcases ends with ⟨_, middle, checked, ends⟩ | ⟨failure, checked, _⟩
          · have same : middle = before := by
              rw [requireQueues, ready] at checked
              exact checked.2
            subst same
            have ended := scheduling_ends ends
            split at ended
            next deleting => exact .detach addressee ready deleting (detach_ends ended)
            next notDeleting =>
                exact .attach addressee ready (by simpa using notDeleting) (attach_ends ended)
          · rw [requireQueues, ready] at checked
            exact absurd checked.1 (by simp)
      | false =>
          rcases ends with ⟨_, middle, checked, _⟩ | ⟨failure, checked, rfl⟩
          · rw [requireQueues, ready] at checked
            exact absurd checked.1 (by simp)
          · rw [requireQueues, ready] at checked
            rcases checked with ⟨same, rfl⟩
            cases same
            exact .notReady addressee ready
  next foreign =>
      rcases ends with ⟨rfl, rfl⟩
      exact .foreign (by simpa using foreign)

end VolumeAttacher.Reconcile
