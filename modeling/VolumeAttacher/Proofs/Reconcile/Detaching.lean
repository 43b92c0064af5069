import Mathlib.Data.List.TakeWhile
import VolumeAttacher.Proofs.Program.Logged
import VolumeAttacher.Proofs.Reconcile.Naming

/-!
# What is done when a volume is detached

The deletion of an attachment takes the finalizer off only after the driver has confirmed that the
volume is not published, by success or by a final error. Until then nothing is written but the error
of detaching, and without the confirmation the work fails. If it succeeds, the attachment is marked
as detached and the volume has been added to its queue.

This is said of the log of a run. The order of what is done is followed through `Phase`s, by the
rules for disciplines; what is stored in the end is read off the courses of the work.
-/

namespace VolumeAttacher.Reconcile

/-- Whether the driver confirms by an answer that a volume is not published on a node. -/
def Request.confirmsDetached : (request : Request) → request.Answer → Bool
  | .call (.unpublish _), .ok _ => true
  | .call (.unpublish _), .error error => error.isFinal
  | _, _ => false

abbrev Exchange : Type := Program.Exchange Request Request.Answer Site

namespace Exchange

def confirmsDetached (exchange : Exchange) : Bool :=
  exchange.request.confirmsDetached exchange.answer

/-- Whether nothing that is stored is changed. -/
def LeavesStored (exchange : Exchange) : Prop :=
  exchange.after.attachments = exchange.before.attachments ∧
    exchange.after.volumes = exchange.before.volumes

/-- Whether the error of detaching is set in the status of an attachment, where an absent status
counts as the initial one, and nothing else is changed. -/
def RecordsDetachError (name : String) (exchange : Exchange) : Prop :=
  ∃ stored error version, Table.find? exchange.before.attachments name = some stored ∧
    exchange.before.Sets name
      (some (Versioned.stamped
        (stored.withStatus fun status => { status with detachError := some error }) version))
      exchange.after

/-- Whether up to the driver's confirmation nothing is written but the error of detaching. -/
def AreCautious (name : String) (log : List Exchange) : Prop :=
  ∀ exchange ∈ log.takeWhile fun exchange => !exchange.confirmsDetached,
    exchange.LeavesStored ∨ exchange.RecordsDetachError name

end Exchange

open Exchange

variable {circumstances : Circumstances} {reconciler : Reconciler} {before site after : Site}
  {attachment : VolumeAttachment} {log : List Exchange} {exchange : Exchange}

theorem areCautious_append {name : String} (cautious : AreCautious name log)
    (next : (∀ earlier ∈ log, earlier.confirmsDetached = false) →
      exchange.LeavesStored ∨ exchange.RecordsDetachError name) :
    AreCautious name (log ++ [exchange]) := by
  intro logged loggedMem
  rw [List.takeWhile_append] at loggedMem
  split at loggedMem
  next complete =>
      have whole : (log.takeWhile fun exchange => !exchange.confirmsDetached) = log :=
        (List.takeWhile_prefix _).eq_of_length complete
      have unconfirmed : ∀ earlier ∈ log, earlier.confirmsDetached = false := by
        simpa using List.takeWhile_eq_self_iff.mp whole
      rcases List.mem_append.mp loggedMem with earlier | last
      · exact cautious logged (whole.symm ▸ earlier)
      · rw [List.mem_singleton.mp (List.takeWhile_subset _ last)]
        exact next unconfirmed
  next => exact cautious logged loggedMem

namespace Detaching

/-- How far the work on the deletion of an attachment has come. -/
inductive Phase where
  /-- Nothing has been written, and the driver has confirmed nothing. -/
  | preparing
  /-- An error has been recorded, and nothing else is written any more. -/
  | recorded
  | confirmed
  /-- The volume has been added to its queue. -/
  | announced

/-- What may be requested in a phase, and the phase after the answer. -/
inductive Move (attachment : VolumeAttachment) :
    Phase → (request : Request) → (request.Answer → Phase) → Prop
  | look {phase : Phase} {request : Request} (isLook : request.isLook) :
      Move attachment phase request fun _ => phase
  | record (error : VolumeError) :
      Move attachment .preparing
        (.writeStatus attachment (attachment.withStatus (Operation.detach.recorded error)))
        fun _ => .recorded
  | unpublish (request : Csi.UnpublishRequest) :
      Move attachment .preparing (.call (.unpublish request)) fun answer =>
        if (Request.call (.unpublish request)).confirmsDetached answer then .confirmed
        else .preparing
  | clear (old new : VolumeAttachment) :
      Move attachment .confirmed (.writeStatus old new) fun _ => .confirmed
  | release (old new : VolumeAttachment) :
      Move attachment .confirmed (.writeAttachment old new) fun _ => .confirmed
  | announce {volumeName : String} (named : attachment.volumeName? = some volumeName) :
      Move attachment .confirmed (.enqueue .volumes volumeName) fun _ => .announced

/-- Whether an action keeps to the moves from a phase on, and if it does not fail ends in a phase
that fits its result. -/
abbrev Keeps {α : Type} (attachment : VolumeAttachment) (ends : α → Phase → Prop)
    (action : Action α) (phase : Phase) : Prop :=
  action.Follows (Move attachment) ends (fun _ _ => True) phase

variable {α : Type} {phase : Phase}

theorem looks_keeps {ends : α → Phase → Prop} {action : Action α} (looks : action.Looks)
    (ended : ∀ value, ends value phase) : Keeps attachment ends action phase :=
  looks.follows (fun _ isLook => .look isLook) ended fun _ => trivial

theorem looks_bind_keeps {β : Type} {ends : β → Phase → Prop} {action : Action α}
    {next : α → Action β} (looks : action.Looks)
    (keeps : ∀ value, Keeps attachment ends (next value) phase) :
    Keeps attachment ends (action >>= next) phase :=
  Action.follows_bind (looks_keeps looks keeps)

theorem record_keeps (failure : Failure) :
    Keeps attachment (fun _ _ => True) (record .detach attachment failure) .preparing := by
  apply looks_bind_keeps (looks_ask rfl)
  intro time
  apply Action.follows_bind
  apply Action.follows_outcome
  apply Action.follows_request (.writeStatus _ _) id rfl (.record _)
  intro answer
  cases answer <;> exact Action.follows_pure trivial

theorem failWith_keeps {ends : α → Phase → Prop} (failure : Failure) :
    Keeps attachment ends (failWith .detach attachment failure : Action α) .preparing :=
  Action.follows_bind ((record_keeps failure).mono
    (fun _ _ _ => Action.follows_throw trivial) fun _ _ => id)

theorem recording_keeps {ends : α → Phase → Prop} {action : Action α} (looks : action.Looks)
    (ended : ∀ value, ends value .preparing) :
    Keeps attachment ends (recording .detach attachment action) .preparing := by
  apply Action.follows_bind
  apply Action.follows_outcome
  apply looks.follows (fun _ isLook => .look isLook)
  · intro value
    exact Action.follows_pure (ended value)
  · intro failure
    exact failWith_keeps failure

theorem csiDetach_keeps (volumeId nodeId : String) (secrets : Table String) :
    Keeps attachment
      (fun result phase => phase =
        match result with
        | .ok _ => .confirmed
        | .error error => if error.isFinal then .confirmed else .preparing)
      (Action.calls (Csi.detach volumeId nodeId secrets)) .preparing := by
  refine ⟨_, .unpublish _, ?_⟩
  intro answer
  cases answer with
  | ok response => rfl
  | error error => rfl

theorem markDetached_keeps (reconciler : Reconciler) :
    Keeps attachment (fun _ phase => phase = .confirmed) (reconciler.markDetached attachment)
      .confirmed := by
  have released (cleared : VolumeAttachment) : Keeps attachment (fun _ phase => phase = .confirmed)
      (do
        let _ ← Action.writeAttachment cleared
          { cleared with metadata := cleared.metadata.removeFinalizer reconciler.finalizer })
      .confirmed := by
    apply Action.follows_bind
    apply Action.follows_request (.writeAttachment _ _) id rfl (.release _ _)
    intro answer
    cases answer with
    | ok stored => exact Action.follows_pure rfl
    | error failure => trivial
  unfold Reconciler.markDetached
  split
  · apply Action.follows_bind
    apply Action.follows_request (.writeStatus _ _) id rfl (.clear _ _)
    intro answer
    cases answer with
    | ok cleared => exact released cleared
    | error failure => trivial
  · exact released attachment

theorem detach_keeps (carries : attachment.metadata.hasFinalizer reconciler.finalizer = true) :
    Keeps attachment (fun _ phase => phase = .announced) (reconciler.detach attachment)
      .preparing := by
  have marked {volumeName : String} (named : attachment.volumeName? = some volumeName) :
      Keeps attachment (fun _ phase => phase = .announced)
        (reconciler.markDetached attachment >>= fun _ => Action.enqueue .volumes volumeName)
        .confirmed := by
    apply Action.follows_bind
    apply (markDetached_keeps reconciler).mono _ fun _ _ => id
    rintro _ _ rfl
    exact Action.follows_request (.enqueue _ _) .ok rfl (.announce named) fun _ => rfl
  unfold Reconciler.detach
  rw [carries]
  apply looks_bind_keeps (Reconciler.nodeId_glances _ _).looks
  intro nodeId
  cases nodeId with
  | error failure => exact failWith_keeps failure
  | ok nodeId =>
      dsimp only
      split
      · exact failWith_keeps _
      next volumeName named =>
          apply Action.follows_bind
          apply recording_keeps (Reconciler.detachInputs_glances volumeName).looks
          rintro ⟨volumeId, secrets⟩
          apply Action.follows_bind
          apply (csiDetach_keeps volumeId nodeId secrets).mono _ fun _ _ => id
          rintro result _ rfl
          cases result with
          | ok _ => exact marked named
          | error error =>
              dsimp only
              split
              · exact marked named
              · exact failWith_keeps _

theorem syncAttachment_keeps (addressee : reconciler.isAddressee attachment = true)
    (deleting : attachment.isDeleting = true)
    (carries : attachment.metadata.hasFinalizer reconciler.finalizer = true) :
    Keeps attachment (fun _ phase => phase = .announced) (reconciler.syncAttachment attachment)
      .preparing := by
  unfold Reconciler.syncAttachment
  rw [if_pos addressee]
  apply looks_bind_keeps (requireQueues_glances _).looks
  intro _
  apply Action.follows_bind
  apply Action.follows_outcome
  rw [if_pos deleting]
  apply (detach_keeps carries).mono
  · rintro _ _ rfl
    exact looks_keeps (looks_ask rfl) fun _ => rfl
  · intro failure phase _
    exact looks_bind_keeps (looks_ask rfl) fun _ => Action.follows_throw trivial

def IsUnconfirmed (log : List Exchange) : Prop :=
  ∀ exchange ∈ log, exchange.confirmsDetached = false

/-- Whether the driver has confirmed, in which case caution is over. -/
def IsConfirmed (log : List Exchange) : Prop :=
  ∃ exchange ∈ log, exchange.confirmsDetached = true

/-- Whether the volume of an attachment has been added to its queue. -/
def IsAnnounced (attachment : VolumeAttachment) (log : List Exchange) : Prop :=
  ∃ volumeName, attachment.volumeName? = some volumeName ∧
    ∃ exchange ∈ log, exchange.request = .enqueue .volumes volumeName

theorem IsUnconfirmed.append (unconfirmed : IsUnconfirmed log)
    (next : exchange.confirmsDetached = false) : IsUnconfirmed (log ++ [exchange]) := by
  intro logged loggedMem
  rcases List.mem_append.mp loggedMem with earlier | last
  · exact unconfirmed logged earlier
  · rw [List.mem_singleton.mp last]
    exact next

theorem IsConfirmed.append (confirmed : IsConfirmed log) : IsConfirmed (log ++ [exchange]) := by
  rcases confirmed with ⟨confirming, confirmingMem, confirms⟩
  exact ⟨confirming, List.mem_append_left _ confirmingMem, confirms⟩

theorem IsConfirmed.not_unconfirmed (confirmed : IsConfirmed log) : ¬ IsUnconfirmed log := by
  intro unconfirmed
  rcases confirmed with ⟨confirming, confirmingMem, confirms⟩
  exact absurd (confirms.symm.trans (unconfirmed confirming confirmingMem)) (by simp)

theorem IsAnnounced.append (announced : IsAnnounced attachment log) :
    IsAnnounced attachment (log ++ [exchange]) := by
  rcases announced with ⟨volumeName, named, enqueuing, enqueuingMem, enqueues⟩
  exact ⟨volumeName, named, enqueuing, List.mem_append_left _ enqueuingMem, enqueues⟩

/-- What is known in a phase of the site and of the log. -/
def Fits (attachment : VolumeAttachment) : Phase → Site × List Exchange → Prop
  | .preparing, (site, log) =>
      AreCautious attachment.name log ∧ site.IsCopy attachment ∧ IsUnconfirmed log
  | .recorded, (_, log) => AreCautious attachment.name log ∧ IsUnconfirmed log
  | .confirmed, (_, log) => AreCautious attachment.name log ∧ IsConfirmed log
  | .announced, (_, log) =>
      AreCautious attachment.name log ∧ IsConfirmed log ∧ IsAnnounced attachment log

theorem not_confirmsDetached_of_isLook {request : Request} (isLook : request.isLook)
    (answer : request.Answer) : request.confirmsDetached answer = false := by
  cases request with
  | call call =>
      cases call with
      | publish | unpublish => contradiction
      | list => rfl
  | _ => rfl

/-- An error that is recorded with a copy is recorded in the stored attachment, if at all. -/
theorem records_of_isCopy {error : VolumeError} {answer : Except Failure VolumeAttachment}
    (carries : attachment.metadata.hasFinalizer reconciler.finalizer = true)
    (isCopy : site.IsCopy attachment)
    (answered : Site.Answered circumstances
      (.writeStatus attachment (attachment.withStatus (Operation.detach.recorded error))) site
      answer after)
    (isExchange : exchange.before = site ∧ exchange.after = after) :
    exchange.LeavesStored ∨ exchange.RecordsDetachError attachment.name := by
  rcases isExchange with ⟨rfl, rfl⟩
  rcases isCopy.stored_or_outdated with stored | outdated
  · rcases answered.status_cases stored (Shelf.not_isFinished carries) with
      ⟨_, _, same, _⟩ | ⟨_, _, sets, version, rfl⟩
    · rw [Exchange.LeavesStored, same]
      exact .inl ⟨rfl, rfl⟩
    · exact .inr ⟨attachment, error, version, stored, sets⟩
  · rw [Exchange.LeavesStored, (outdated.refuses_status answered).1]
    exact .inl ⟨rfl, rfl⟩

theorem upheld (carries : attachment.metadata.hasFinalizer reconciler.finalizer = true) :
    Program.Upheld (Move attachment) (Program.Logged (Site.Answered circumstances))
      (Fits attachment) := by
  rintro phase request later move ⟨before, log⟩ answer ⟨after, longer⟩ fits ⟨answered, isLonger⟩
  dsimp only at answered isLonger
  subst isLonger
  cases move with
  | @look _ request isLook =>
      have same := answered.same_of_isLook isLook
      have unconfirming := not_confirmsDetached_of_isLook isLook answer
      have cautious (cautious : AreCautious attachment.name log) :
          AreCautious attachment.name (log ++ [⟨before, request, answer, after⟩]) :=
        areCautious_append cautious fun _ => .inl same
      cases phase with
      | preparing =>
          refine ⟨cautious fits.1, ?_, fits.2.2.append unconfirming⟩
          intro stored found
          rw [same.1] at found
          exact fits.2.1 stored found
      | recorded => exact ⟨cautious fits.1, fits.2.append unconfirming⟩
      | confirmed => exact ⟨cautious fits.1, fits.2.append⟩
      | announced => exact ⟨cautious fits.1, fits.2.1.append, fits.2.2.append⟩
  | record error =>
      rcases fits with ⟨cautious, isCopy, unconfirmed⟩
      exact ⟨areCautious_append cautious fun _ =>
        records_of_isCopy carries isCopy answered ⟨rfl, rfl⟩, unconfirmed.append rfl⟩
  | unpublish request =>
      rcases fits with ⟨cautious, isCopy, unconfirmed⟩
      rcases answered with ⟨_, rfl⟩
      have cautious : AreCautious attachment.name
          (log ++ [⟨before, .call (.unpublish request), answer,
            before.called (.unpublish request)⟩]) :=
        areCautious_append cautious fun _ => .inl ⟨rfl, rfl⟩
      dsimp only
      cases confirms : (Request.call (.unpublish request)).confirmsDetached answer with
      | true =>
          exact ⟨cautious, _, List.mem_append_right _ (List.mem_singleton_self _), confirms⟩
      | false => exact ⟨cautious, isCopy, unconfirmed.append confirms⟩
  | clear old new | release old new =>
      rcases fits with ⟨cautious, confirmed⟩
      exact ⟨areCautious_append cautious fun unconfirmed =>
        absurd unconfirmed confirmed.not_unconfirmed, confirmed.append⟩
  | @announce volumeName named =>
      rcases fits with ⟨cautious, confirmed⟩
      exact ⟨areCautious_append cautious fun unconfirmed =>
        absurd unconfirmed confirmed.not_unconfirmed, confirmed.append, volumeName, named, _,
        List.mem_append_right _ (List.mem_singleton_self _), rfl⟩

/-- What a logged run of the work on the deletion of an attachment does, and in which order. -/
theorem ordered {result : Except Failure Unit}
    (isCopy : site.IsCopy attachment)
    (addressee : reconciler.isAddressee attachment = true)
    (deleting : attachment.isDeleting = true)
    (carries : attachment.metadata.hasFinalizer reconciler.finalizer = true)
    (ends : (reconciler.syncAttachment attachment).run.Ends
      (Program.Logged (Site.Answered circumstances)) (site, []) result (after, log)) :
    AreCautious attachment.name log ∧
      (result = .ok () → IsConfirmed log ∧ IsAnnounced attachment log) := by
  have fits : Fits attachment .preparing (site, []) := ⟨by simp [AreCautious], isCopy,
    by simp [IsUnconfirmed]⟩
  rcases ends.fits (upheld carries) (syncAttachment_keeps addressee deleting carries) fits with
    ⟨phase, ended, fits⟩
  constructor
  · cases phase <;> exact fits.1
  · rintro rfl
    have announced : phase = .announced := ended
    subst announced
    exact fits.2

end Detaching

/-- Whether an attachment is another one that has been marked as detached, and from which the
finalizer has been taken. -/
structure IsDetached (finalizer : String) (old new : VolumeAttachment) : Prop where
  status : new.status = old.status.map fun status =>
    { status with attached := false, detachError := none, attachmentMetadata := none }
  finalizers : new.metadata.finalizerList = old.metadata.finalizerList.filter (· ≠ finalizer)
  spec : new.spec = old.spec

/-- Whether the stored attachment is replaced by one that has been marked as detached, which is
dropped if it is finished. -/
def Site.Detaches (finalizer : String) (attachment : VolumeAttachment) (before after : Site) :
    Prop :=
  Table.find? before.attachments attachment.name = some attachment ∧
    ∃ new, IsDetached finalizer attachment new ∧
      before.attachments.Sets attachment.name (if Shelf.isFinished new then none else some new)
        after.attachments

theorem isDetached_of_fresh (fresh : attachment.status.any Reconciler.isStale = false) :
    attachment.mapStatus Reconciler.detachedStatus = attachment := by
  rcases attachment with ⟨metadata, spec, status⟩
  cases status with
  | none => rfl
  | some status =>
      rcases status with ⟨attached, attachmentMetadata, attachError, detachError⟩
      simp only [Option.any_some, Reconciler.isStale, Bool.or_eq_false_iff,
        Option.isSome_eq_false_iff, Option.isNone_iff_eq_none] at fresh
      rcases fresh with ⟨⟨rfl, rfl⟩, rfl⟩
      rfl

/-- The finalizer is taken off an attachment that has been marked as detached. -/
theorem release_detaches {cleared written : VolumeAttachment} {middle : Site} {version : String}
    (stored : Table.find? before.attachments attachment.name = some attachment)
    (isCleared : cleared = attachment.mapStatus Reconciler.detachedStatus ∨
      cleared = Versioned.stamped (attachment.mapStatus Reconciler.detachedStatus) version)
    (sets : before.attachments.Sets attachment.name (some cleared) middle.attachments)
    (releases : Site.Answered circumstances
      (.writeAttachment cleared
        { cleared with metadata := cleared.metadata.removeFinalizer reconciler.finalizer })
      middle (.ok written : Except Failure VolumeAttachment) after) :
    before.Detaches reconciler.finalizer attachment after := by
  have sameName : cleared.name = attachment.name := by
    rcases isCleared with rfl | rfl <;> rfl
  have storedCleared : Table.find? middle.attachments cleared.name = some cleared :=
    sameName ▸ sets.found
  rcases releases.attachment_cases storedCleared with
    ⟨_, same, _⟩ | ⟨_, isWritten, setsNew, versionNew, rfl⟩
  · contradiction
  · have setsNew := setsNew.toSets
    rw [sameName, ← Shelf.isFinished_stamped _ versionNew] at setsNew
    refine ⟨stored, _, ?_, sets.trans setsNew⟩
    rcases isCleared with rfl | rfl <;> exact ⟨rfl, rfl, rfl⟩

theorem mark_detaches (isCopy : before.IsCopy attachment)
    (carries : attachment.metadata.hasFinalizer reconciler.finalizer = true)
    (ends : MarkEnds circumstances reconciler attachment before (.ok ()) after) :
    before.Detaches reconciler.finalizer attachment after := by
  generalize isOk : (.ok () : Except Failure Unit) = result at ends
  cases ends with
  | uncleared => contradiction
  | @released cleared middle _ written clears releases =>
      cases written with
      | error failure => contradiction
      | ok written =>
          rcases isCopy.stored_or_outdated with stored | outdated
          · rcases clears with ⟨_, clears⟩ | ⟨fresh, rfl, rfl⟩
            · rcases clears.status_cases stored (Shelf.not_isFinished carries) with
                ⟨_, same, _⟩ | ⟨_, same, sets, version, isCleared⟩
              · contradiction
              · cases same
                exact release_detaches stored (.inr isCleared) sets.toSets releases
            · have isCleared : cleared = cleared.mapStatus Reconciler.detachedStatus ∨
                  cleared = Versioned.stamped (cleared.mapStatus Reconciler.detachedStatus) "" :=
                .inl (isDetached_of_fresh fresh).symm
              refine release_detaches stored isCleared ?_ releases
              rw [← stored]
              exact .refl _ _
          · rcases clears with ⟨_, clears⟩ | ⟨_, rfl, rfl⟩
            · rcases (outdated.refuses_status clears).2 with ⟨_, same⟩
              contradiction
            · rcases (outdated.refuses_attachment releases).2 with ⟨_, same⟩
              contradiction

/-- The call to the driver that detaches the volume of an attachment. -/
structure IsDetachCall (reconciler : Reconciler) (site : Site) (attachment : VolumeAttachment)
    (request : Csi.UnpublishRequest) : Prop where
  node : site.backdrop.nodeId reconciler attachment.spec.nodeName attachment.keptNodeId? =
    .ok request.nodeId
  volume : ∃ volumeName volume source, attachment.volumeName? = some volumeName ∧
    Table.find? site.volumes volumeName = some volume ∧ volume.csiSource? = some source ∧
    source.volumeHandle = request.volumeId ∧ site.backdrop.secrets volume = .ok request.secrets

theorem isDetachCall_of_prepared {nodeId volumeName volumeId : String} {secrets : Table String}
    (known : site.backdrop.nodeId reconciler attachment.spec.nodeName
      (attachment.metadata.annotation? attachedNodeIdAnnotation) = .ok nodeId)
    (named : attachment.volumeName? = some volumeName)
    (prepared : site.backdrop.detachInputs volumeName (Table.find? site.volumes volumeName) =
      .ok (volumeId, secrets)) :
    IsDetachCall reconciler site attachment { volumeId, nodeId, secrets } := by
  rcases site.backdrop.detachInputs_eq_ok_iff.mp prepared with
    ⟨volume, source, found, isSource, isHandle, isSecrets⟩
  exact ⟨known, volumeName, volume, source, named, found, isSource, isHandle, isSecrets⟩

/-- What the work on the deletion of an attachment does. -/
structure Detachment (reconciler : Reconciler) (attachment : VolumeAttachment) (before after : Site)
    (log : List Exchange) (result : Except Failure Unit) : Prop where
  /-- The driver is called once at most, and then it is asked to detach the volume. -/
  called : after.calls = before.calls ∨
    ∃ request, IsDetachCall reconciler before attachment request ∧
      after.calls = .unpublish request :: before.calls
  /-- Before the driver has confirmed that the volume is not published, nothing is written but the
  error of detaching. -/
  cautious : ∀ exchange ∈ log.takeWhile fun exchange => !exchange.confirmsDetached,
    exchange.LeavesStored ∨ exchange.RecordsDetachError attachment.name
  failed : (∀ exchange ∈ log, exchange.confirmsDetached = false) →
    ∃ failure, result = .error failure
  /-- Work that succeeds leaves the attachment marked as detached, and has added the volume to its
  queue. -/
  detached : result = .ok () →
    before.Detaches reconciler.finalizer attachment after ∧
      ∃ volumeName, attachment.volumeName? = some volumeName ∧
        ∃ exchange ∈ log, exchange.request = .enqueue .volumes volumeName

/-- Whatever the driver answers and whichever writes are refused: a logged run of the work on the
deletion of an attachment, or of a copy of it, that carries the finalizer. -/
theorem syncAttachment_detachment {result : Except Failure Unit} (isCopy : before.IsCopy attachment)
    (addressee : reconciler.isAddressee attachment = true)
    (deleting : attachment.isDeleting = true)
    (carries : attachment.metadata.hasFinalizer reconciler.finalizer = true)
    (ends : (reconciler.syncAttachment attachment).run.Ends
      (Program.Logged (Site.Answered circumstances)) (before, []) result (after, log)) :
    Detachment reconciler attachment before after log result := by
  rcases Detaching.ordered isCopy addressee deleting carries ends with ⟨cautious, succeeds⟩
  have failed (unconfirmed : Detaching.IsUnconfirmed log) :
      ∃ failure, result = .error failure := by
    cases result with
    | ok value => exact absurd unconfirmed (succeeds rfl).1.not_unconfirmed
    | error failure => exact ⟨failure, rfl⟩
  have course : SyncEnds circumstances reconciler attachment before result after :=
    syncAttachment_ends ends.unlogged
  cases course with
  | foreign foreign => exact absurd (foreign.symm.trans addressee) Bool.false_ne_true
  | notReady _ _ => exact ⟨.inl rfl, cautious, failed, by simp⟩
  | attach _ _ notDeleting _ =>
      exact absurd (notDeleting.symm.trans deleting) Bool.false_ne_true
  | detach _ _ _ course =>
      cases course with
      | unguarded unguarded => exact absurd (unguarded.symm.trans carries) Bool.false_ne_true
      | unknownNode _ _ records | noVolume _ _ _ records | unprepared _ _ _ _ records =>
          exact ⟨.inl records.calls, cautious, failed, by simp⟩
      | failed _ known named prepared _ _ records =>
          exact ⟨.inr ⟨_, isDetachCall_of_prepared known named prepared, records.calls⟩, cautious,
            failed, by simp⟩
      | detached _ known named prepared _ _ marks =>
          refine ⟨.inr ⟨_, isDetachCall_of_prepared known named prepared, marks.calls⟩, cautious,
            failed, ?_⟩
          rintro rfl
          have isCopyCalled (call : Csi.Call) : (before.called call).IsCopy attachment := isCopy
          have detaches := mark_detaches (isCopyCalled _) carries marks
          exact ⟨detaches, (succeeds rfl).2⟩

open Simulation

/-- A small cluster in which the deletion of the attachment has been asked for. -/
def departingWorld : World :=
  let world := (smallCluster {}).world
  { world with
    store :=
      { world.store with
        attachments :=
          { objects := [("va-1", Reconciler.departing)], versions := [("va-1", 1)] } } }

def departingRun : Except Failure Unit × World :=
  departingWorld.perform (smallReconciler.syncAttachment Reconciler.departing)

theorem detachment_departingRun : ∃ log : List Exchange,
    (smallReconciler.syncAttachment Reconciler.departing).run.Ends
        (Program.Logged (Site.Answered .arbitrary)) (departingWorld.site, []) (.ok ())
        (departingRun.2.site, log) ∧
      departingWorld.site.Detaches smallReconciler.finalizer Reconciler.departing
        departingRun.2.site ∧
      (∃ exchange ∈ log, exchange.confirmsDetached = true) ∧
      ∃ exchange ∈ log, exchange.request = .enqueue .volumes "pv-1" := by
  have isCopy : departingWorld.site.IsCopy Reconciler.departing := by
    intro stored found _
    cases found
    rfl
  have ends := World.perform_ends_arbitrary
    (smallReconciler.syncAttachment Reconciler.departing) departingWorld
  have isOk : departingRun.1 = .ok () := by
    have succeeds : departingRun.1.isOk = true := by decide +kernel
    cases result : departingRun.1 with
    | ok value => rfl
    | error failure =>
        rw [result] at succeeds
        contradiction
  change Action.Ends _ _ _ departingRun.1 departingRun.2.site at ends
  rw [isOk] at ends
  rcases Program.Ends.exists_logged ends [] with ⟨log, logged⟩
  have detachment := syncAttachment_detachment isCopy (by decide) rfl (by decide) logged
  rcases detachment.detached rfl with ⟨detaches, _, ⟨⟩, enqueued⟩
  refine ⟨log, logged, detaches, ?_, enqueued⟩
  by_contra unconfirmed
  rcases detachment.failed (by simpa using unconfirmed) with ⟨_, same⟩
  contradiction

end VolumeAttacher.Reconcile
