import VolumeAttacher.Proofs.Reconcile.Recovery

/-!
# What becomes of the stored copy

However the work on a stored attachment ends, what is then stored of it is of one of four sorts: its
status has been changed at most; it has been given the finalizer; it has been marked as attached,
after a call to the driver; or it is without the finalizer. Its metadata is then known, and other
attachments are as they were.
-/

namespace VolumeAttacher.Reconcile

open Reconciler

/-- What may become of an attachment by the work on it. -/
inductive Fate (reconciler : Reconciler) (before : Site) (attachment : VolumeAttachment)
    (after : Site) : Option VolumeAttachment → Prop
  | restated {new : VolumeAttachment} (metadata : new.bare.metadata = attachment.bare.metadata)
      (notMarked : new.isAttached = true → attachment.isAttached = true) :
      Fate reconciler before attachment after (some new)
  | guarded {new : VolumeAttachment}
      (metadata : new.bare.metadata =
        (reconciler.guarded before.backdrop attachment.bare).metadata)
      (notMarked : new.isAttached = true → attachment.isAttached = true) :
      Fate reconciler before attachment after (some new)
  | marked {new : VolumeAttachment} {request : Csi.PublishRequest}
      (metadata : new.bare.metadata =
        (reconciler.guarded before.backdrop attachment.bare).metadata)
      (known : before.backdrop.nodeId reconciler attachment.spec.nodeName none =
        .ok request.nodeId)
      (calls : after.calls = .publish request :: before.calls) :
      Fate reconciler before attachment after (some new)
  | released {content : Option VolumeAttachment}
      (lacks : ∀ new, content = some new →
        new.metadata.hasFinalizer reconciler.finalizer = false)
      (notMarked : ∀ new, content = some new → new.isAttached = false) :
      Fate reconciler before attachment after content

def HasFate (reconciler : Reconciler) (before : Site) (attachment : VolumeAttachment)
    (after : Site) : Prop :=
  ∃ content, before.attachments.Sets attachment.name content after.attachments ∧
    Fate reconciler before attachment after content

variable {reconciler : Reconciler} {circumstances : Circumstances}
  {result : Except Failure Unit} {before middle after : Site}
  {attachment copy : VolumeAttachment}

theorem hasFate_of_same
    (stored : Table.find? before.attachments attachment.name = some attachment)
    (same : after.attachments = before.attachments) :
    HasFate reconciler before attachment after := by
  refine ⟨some attachment, ?_, .restated rfl id⟩
  rw [same, ← stored]
  exact .refl _ _

theorem isAttached_of_bare_eq_failed {new : VolumeAttachment} {operation : Operation}
    {failure : Failure} (recorded : new.bare = failed operation attachment.bare failure) :
    new.isAttached = attachment.isAttached := by
  rw [← VolumeAttachment.isAttached_bare, recorded, failed, isAttached_recorded,
    VolumeAttachment.isAttached_bare]

/-- A failure is recorded before anything else has become of the attachment. -/
theorem Records.hasFate {operation : Operation} {failure : Failure}
    (records : Records circumstances operation attachment failure middle after)
    (atHand : AtHand reconciler middle attachment)
    (unfinished : Shelf.isFinished attachment = false)
    (same : middle.attachments = before.attachments) :
    HasFate reconciler before attachment after := by
  rcases atHand.records_cases unfinished records with ⟨rfl, _⟩ | ⟨new, sets, recorded⟩
  · exact hasFate_of_same (same ▸ atHand.stored) same
  · refine ⟨some new, same ▸ sets.toSets, .restated ?_ ?_⟩
    · rw [recorded]
      rfl
    · rw [isAttached_of_bare_eq_failed recorded]
      exact id

theorem Backdrop.nodeId_of_attachRequest {backdrop : Backdrop} {volume : PersistentVolume}
    {id : String} {request : Csi.AttachRequest}
    (prepared : backdrop.attachRequest reconciler volume (.ok id) = .ok request) :
    request.nodeId = id := by
  unfold attachRequest at prepared
  cases isHandle : volume.handle.mapError Failure.invalidVolume with
  | error failure =>
      rw [isHandle] at prepared
      contradiction
  | ok handle =>
      rw [isHandle] at prepared
      cases isCapability : (volume.capability reconciler.defaultFileSystem).mapError
          Failure.invalidVolume with
      | error failure =>
          rw [isCapability] at prepared
          contradiction
      | ok capability =>
          rw [isCapability] at prepared
          cases isSecrets : backdrop.secrets volume with
          | error failure =>
              rw [isSecrets] at prepared
              contradiction
          | ok secrets =>
              rw [isSecrets] at prepared
              cases prepared
              rfl

theorem Backdrop.nodeId_of_sentRequest {backdrop : Backdrop} {volume : PersistentVolume}
    {nodeId : Except Failure String} {request : Csi.AttachRequest}
    (sent : backdrop.sentRequest reconciler volume nodeId = .ok request) :
    nodeId = .ok request.nodeId := by
  unfold sentRequest at sent
  split at sent
  · contradiction
  next prepared =>
      split at sent
      · contradiction
      · cases sent
        cases nodeId with
        | error failure => contradiction
        | ok id =>
            rw [nodeId_of_attachRequest prepared]

namespace Engaged.Secured

variable {publishContext : Table String} {volumeName : String} {volume : PersistentVolume}
  {goal : Contents × Except Failure Unit} {nodeId : Except Failure String}

theorem isAttached_eq (secured : Secured reconciler publishContext volumeName volume goal before
    attachment copy nodeId middle) : copy.isAttached = attachment.isAttached := by
  rw [← VolumeAttachment.isAttached_bare, secured.isGuarded, isAttached_guarded,
    VolumeAttachment.isAttached_bare]

theorem hasFate_of_same (secured : Secured reconciler publishContext volumeName volume goal before
      attachment copy nodeId middle)
    (same : after.attachments = middle.attachments) :
    HasFate reconciler before attachment after := by
  refine ⟨some copy, same ▸ secured.stores, .guarded ?_ ?_⟩
  · rw [secured.isGuarded]
  · rw [secured.isAttached_eq]
    exact id

/-- The status is changed after the finalizers have been put on. -/
theorem hasFate_of_sets {new : VolumeAttachment}
    (secured : Secured reconciler publishContext volumeName volume goal before attachment copy
      nodeId middle)
    (sets : middle.attachments.Sets copy.name (some new) after.attachments)
    (metadata : new.bare.metadata = copy.bare.metadata)
    (notMarked : new.isAttached = true → copy.isAttached = true) :
    HasFate reconciler before attachment after := by
  refine ⟨some new, secured.stores.trans (secured.sameName ▸ sets), .guarded ?_ ?_⟩
  · rw [metadata, secured.isGuarded]
  · rw [← secured.isAttached_eq]
    exact notMarked

theorem clear_hasFate
    (secured : Secured reconciler publishContext volumeName volume goal before attachment copy
      nodeId middle)
    (ends : (clearAttachError copy).Ends circumstances middle result after) :
    HasFate reconciler before attachment after := by
  unfold clearAttachError at ends
  split at ends
  next =>
      rcases (Action.ends_discard (Action.writeStatus copy _)).mp ends with ⟨answer, writes, rfl⟩
      have answered := (Action.ends_writeStatus _ _).mp writes
      rcases answered.status_cases secured.engaged.stored secured.engaged.not_isFinished with
        ⟨failure, _, rfl, _⟩ | ⟨written, _, sets, version, isWritten⟩
      · exact secured.hasFate_of_same rfl
      · have cleared : written.bare = withoutAttachError copy.bare := by
          rw [isWritten, VolumeAttachment.bare_stamped, ← bare_withoutAttachError]
          rfl
        refine secured.hasFate_of_sets sets.toSets (by rw [cleared]; rfl) ?_
        rw [← VolumeAttachment.isAttached_bare, cleared, isAttached_withoutAttachError,
          VolumeAttachment.isAttached_bare]
        exact id
  next =>
      rcases ends with ⟨rfl, rfl⟩
      exact secured.hasFate_of_same rfl

theorem records_hasFate {failure : Failure} {site : Site}
    (secured : Secured reconciler publishContext volumeName volume goal before attachment copy
      nodeId middle)
    (engaged : Engaged reconciler publishContext volumeName volume goal site copy)
    (same : site.attachments = middle.attachments)
    (records : Records circumstances .attach copy failure site after) :
    HasFate reconciler before attachment after := by
  rcases engaged.records_cases engaged.not_isFinished records with ⟨rfl, _⟩ | ⟨new, sets, recorded⟩
  · exact secured.hasFate_of_same same
  · refine secured.hasFate_of_sets (same ▸ sets.toSets) (by rw [recorded]; rfl) ?_
    rw [isAttached_of_bare_eq_failed recorded]
    exact id

theorem publish_hasFate
    (secured : Secured reconciler publishContext volumeName volume goal before attachment copy
      nodeId middle)
    (ends : PublishEnds circumstances reconciler copy volume nodeId middle result after) :
    HasFate reconciler before attachment after := by
  cases ends with
  | unsent unsent records => exact secured.records_hasFate secured.engaged rfl records
  | failed sent reply records =>
      exact secured.records_hasFate (secured.engaged.called _) rfl records
  | @confirmed request response written _ sent reply answered =>
      have engaged := secured.engaged.called (publishCall request)
      rcases answered.status_cases engaged.stored engaged.not_isFinished with
        ⟨failure, _, rfl, _⟩ | ⟨new, _, sets, version, isNew⟩
      · exact secured.hasFate_of_same rfl
      · refine ⟨some new, secured.stores.trans (secured.sameName ▸ sets.toSets), ?_⟩
        refine .marked ?_ ?_ (sets.calls.trans (congrArg (_ :: ·) secured.calls))
        · rw [isNew, VolumeAttachment.bare_stamped, ← secured.isGuarded]
          rfl
        · rw [← secured.isNodeId]
          exact Backdrop.nodeId_of_sentRequest sent

end Engaged.Secured

theorem attach_hasFate (ready : reconciler.ready = true)
    (atHand : AtHand reconciler before attachment) (notDeleting : attachment.isDeleting = false)
    (ends : AttachEnds circumstances reconciler attachment before result after) :
    HasFate reconciler before attachment after := by
  have unfinished : Shelf.isFinished attachment = false := by
    have notDeleting : attachment.metadata.isDeleting = false := notDeleting
    simp [Shelf.isFinished, Versioned.metadata, notDeleting]
  cases ends with
  | noVolume _ records | missing _ _ records | deleting _ _ _ _ records =>
      exact records.hasFate atHand unfinished rfl
  | foreign => exact hasFate_of_same atHand.stored rfl
  | unshielded engages shield records =>
      have engaged := engages.engaged [] ready atHand notDeleting
      rcases engaged.protectVolume_cases engages.found shield with ⟨_, _, rfl, _⟩ | ⟨same, _⟩
      · exact records.hasFate atHand unfinished rfl
      · contradiction
  | unguarded engages shield guard records =>
      have engaged := engages.engaged [] ready atHand notDeleting
      rcases engaged.protectVolume_cases engages.found shield with
        ⟨_, same, _⟩ | ⟨_, engaged, _, same⟩
      · contradiction
      · rcases engaged.protectAttachment_cases guard with ⟨_, _, rfl, _⟩ | ⟨_, same, _⟩
        · exact records.hasFate engaged.toAtHand unfinished same.attachments
        · contradiction
  | attached engages shield guard attached clear =>
      have engaged := engages.engaged [] ready atHand notDeleting
      exact (engaged.secures engages.found shield guard).clear_hasFate clear
  | published engages shield guard notAttached publish =>
      have engaged := engages.engaged [] ready atHand notDeleting
      exact (engaged.secures engages.found shield guard).publish_hasFate publish

theorem not_attached_of_not_stale (fresh : attachment.status.any isStale = false) :
    attachment.isAttached = false := by
  rw [← VolumeAttachment.isAttached_bare, ← bare_of_not_stale attachment fresh]
  rfl

/-- Once the status has been cleared, the finalizer is taken off if that is not refused. -/
theorem release_hasFate {site : Site} {written : Except Failure VolumeAttachment}
    (sets : before.attachments.Sets attachment.name (some copy) site.attachments)
    (metadata : copy.bare.metadata = attachment.bare.metadata)
    (notAttached : copy.isAttached = false)
    (releases : Site.Answered circumstances
      (.writeAttachment copy
        { copy with metadata := copy.metadata.removeFinalizer reconciler.finalizer })
      site written after) :
    HasFate reconciler before attachment after := by
  have sameName : copy.bare.name = attachment.bare.name :=
    congrArg Metadata.displayName metadata
  have sameName : copy.name = attachment.name := sameName
  have stored : Table.find? site.attachments copy.name = some copy := sameName ▸ sets.found
  rcases releases.attachment_cases stored with
    ⟨_, _, rfl, _⟩ | ⟨new, _, setsNew, version, isNew⟩
  · refine ⟨some copy, sets, .restated metadata ?_⟩
    rw [notAttached]
    intro attached
    contradiction
  · refine ⟨_, sets.trans (sameName ▸ setsNew.toSets), .released ?_ ?_⟩
    · intro other isOther
      split at isOther
      · contradiction
      · cases isOther
        rw [isNew]
        exact Metadata.hasFinalizer_removeFinalizer _ _
    · intro other isOther
      split at isOther
      · contradiction
      · cases isOther
        rw [isNew]
        exact notAttached

/-- Marking takes the finalizer off only an attachment that is not marked as attached. -/
theorem mark_hasFate (stored : Table.find? middle.attachments attachment.name = some attachment)
    (unfinished : Shelf.isFinished attachment = false)
    (same : middle.attachments = before.attachments)
    (ends : MarkEnds circumstances reconciler attachment middle result after) :
    HasFate reconciler before attachment after := by
  cases ends with
  | uncleared stale clears =>
      rcases clears.status_cases stored unfinished with ⟨_, _, rfl, _⟩ | ⟨_, same, _⟩
      · exact hasFate_of_same (same ▸ stored) same
      · contradiction
  | @released cleared later _ written clears releases =>
      rcases clears with ⟨stale, clears⟩ | ⟨fresh, rfl, rfl⟩
      · rcases clears.status_cases stored unfinished with
          ⟨_, same, _⟩ | ⟨_, isCleared, sets, version, isWritten⟩
        · contradiction
        · cases isCleared
          refine release_hasFate (same ▸ sets.toSets) ?_ ?_ releases
          · rw [isWritten]
            rfl
          · rw [isWritten]
            exact isAttached_detached attachment
      · refine release_hasFate ?_ rfl (not_attached_of_not_stale fresh) releases
        rw [← same, ← stored]
        exact .refl _ _

theorem detach_hasFate
    (atHand : AtHand reconciler before attachment)
    (ends : DetachEnds circumstances reconciler attachment before result after) :
    HasFate reconciler before attachment after := by
  cases ends with
  | unguarded => exact hasFate_of_same atHand.stored rfl
  | unknownNode carries _ records | noVolume carries _ _ records
  | unprepared carries _ _ _ records =>
      exact records.hasFate atHand (Shelf.not_isFinished carries) rfl
  | failed carries _ _ _ _ _ records =>
      exact records.hasFate (atHand.called _) (Shelf.not_isFinished carries) rfl
  | detached carries _ _ _ _ _ marks =>
      exact mark_hasFate (atHand.called _).stored (Shelf.not_isFinished carries) rfl marks

/-- However the work on a stored attachment ends, one of the fates is what becomes of it. -/
theorem sync_hasFate (isNamed : before.IsNamed)
    (stored : Table.find? before.attachments attachment.name = some attachment)
    (ends : (reconciler.syncAttachment attachment).Ends circumstances before result after) :
    HasFate reconciler before attachment after := by
  cases syncAttachment_ends ends with
  | foreign | notReady => exact hasFate_of_same stored rfl
  | attach addressee ready notDeleting ends =>
      exact attach_hasFate ready ⟨isNamed, stored, addressee⟩ notDeleting ends
  | detach addressee ready deleting ends => exact detach_hasFate ⟨isNamed, stored, addressee⟩ ends

/-- Whether no attachment is stored in the version of a copy. -/
def Site.Outdates (site : Site) (copy : VolumeAttachment) : Prop :=
  ∀ stored, Table.find? site.attachments copy.name = some stored →
    stored.metadata.resourceVersion ≠ copy.metadata.resourceVersion

/-- Whether an attachment is the stored one, if that is in its version. -/
def Site.IsCopy (site : Site) (copy : VolumeAttachment) : Prop :=
  ∀ stored, Table.find? site.attachments copy.name = some stored →
    stored.metadata.resourceVersion = copy.metadata.resourceVersion → stored = copy

/-- A copy is the stored attachment, or no attachment is stored in its version. -/
theorem Site.IsCopy.stored_or_outdated {site : Site} (isCopy : site.IsCopy copy) :
    Table.find? site.attachments copy.name = some copy ∨ site.Outdates copy := by
  by_cases outdated : site.Outdates copy
  · exact .inr outdated
  · left
    by_contra missing
    refine outdated fun stored found sameVersion => missing ?_
    rw [found, isCopy stored found sameVersion]

namespace Site.Outdates

theorem of_same {site : Site} (outdated : before.Outdates copy)
    (same : site.attachments = before.attachments) : site.Outdates copy := by
  intro stored found
  rw [same] at found
  exact outdated stored found

theorem called (outdated : before.Outdates copy) (call : Csi.Call) :
    (before.called call).Outdates copy :=
  outdated

theorem refuses_status {new : VolumeAttachment} {answer : Except Failure VolumeAttachment}
    (outdated : before.Outdates copy)
    (answered : Site.Answered circumstances (.writeStatus copy new) before answer after) :
    after = before ∧ ∃ failure, answer = .error failure := by
  rcases answered with ⟨attachments, rfl, written, _⟩
  cases written with
  | refused failure => exact ⟨rfl, failure, rfl⟩
  | accepted found sameVersion => exact absurd sameVersion (outdated _ found)

theorem refuses_attachment {new : VolumeAttachment} {answer : Except Failure VolumeAttachment}
    (outdated : before.Outdates copy)
    (answered : Site.Answered circumstances (.writeAttachment copy new) before answer after) :
    after = before ∧ ∃ failure, answer = .error failure := by
  rcases answered with ⟨attachments, rfl, written, _⟩
  cases written with
  | refused failure => exact ⟨rfl, failure, rfl⟩
  | accepted found sameVersion => exact absurd sameVersion (outdated _ found)

theorem records {operation : Operation} {failure : Failure} (outdated : before.Outdates copy)
    (records : Records circumstances operation copy failure before after) : after = before := by
  rcases records with ⟨_, _, answered⟩
  exact (outdated.refuses_status answered).1

theorem guards {nodeId : Except Failure String} {result : Except Failure VolumeAttachment}
    (outdated : before.Outdates copy)
    (ends : (reconciler.protectAttachment copy nodeId).Ends circumstances before result after) :
    after = before ∧ ∀ guarded, result = .ok guarded → guarded = copy := by
  unfold protectAttachment at ends
  split at ends
  · rcases ends with ⟨rfl, rfl⟩
    exact ⟨rfl, fun guarded same => (Except.ok.inj same).symm⟩
  · rcases outdated.refuses_attachment ((Action.ends_writeAttachment _ _).mp ends) with
      ⟨rfl, failure, rfl⟩
    exact ⟨rfl, fun guarded same => by contradiction⟩

theorem clears (outdated : before.Outdates copy)
    (ends : (clearAttachError copy).Ends circumstances before result after) : after = before := by
  unfold clearAttachError at ends
  split at ends
  · rcases (Action.ends_discard (Action.writeStatus copy _)).mp ends with ⟨answer, writes, rfl⟩
    exact (outdated.refuses_status ((Action.ends_writeStatus _ _).mp writes)).1
  · exact ends.2

theorem publishes {volume : PersistentVolume} {nodeId : Except Failure String}
    (outdated : before.Outdates copy)
    (ends : PublishEnds circumstances reconciler copy volume nodeId before result after) :
    after.attachments = before.attachments := by
  cases ends with
  | unsent _ records => rw [outdated.records records]
  | failed _ _ records =>
      rw [(outdated.called _).records records]
      rfl
  | confirmed _ _ confirms =>
      rw [((outdated.called _).refuses_status confirms).1]
      rfl

theorem marks (outdated : before.Outdates copy)
    (ends : MarkEnds circumstances reconciler copy before result after) : after = before := by
  cases ends with
  | uncleared _ clears => exact (outdated.refuses_status clears).1
  | released clears releases =>
      rcases clears with ⟨_, clears⟩ | ⟨_, rfl, rfl⟩
      · rcases (outdated.refuses_status clears).2 with ⟨_, same⟩
        contradiction
      · exact (outdated.refuses_attachment releases).1

end Site.Outdates

theorem protectVolume_sameAttachments {volume : PersistentVolume}
    (ends : (reconciler.protectVolume volume).Ends circumstances before result after) :
    after.attachments = before.attachments := by
  unfold protectVolume at ends
  split at ends
  · rcases (Action.ends_discard (Action.writeVolume volume _)).mp ends with ⟨answer, writes, _⟩
    rcases (Action.ends_writeVolume _ _).mp writes with ⟨volumes, rfl, _⟩
    rfl
  · rw [ends.2]

/-- Work with an outdated copy changes no attachment. -/
theorem Site.Outdates.sync (outdated : before.Outdates attachment)
    (ends : (reconciler.syncAttachment attachment).Ends circumstances before result after) :
    after.attachments = before.attachments := by
  cases syncAttachment_ends ends with
  | foreign | notReady => rfl
  | attach _ _ _ ends =>
      cases ends with
      | noVolume _ records | missing _ _ records | deleting _ _ _ _ records =>
          rw [outdated.records records]
      | foreign => rfl
      | unshielded _ shield records =>
          have same := protectVolume_sameAttachments shield
          rw [(outdated.of_same same).records records, same]
      | unguarded _ shield guard records =>
          have same := protectVolume_sameAttachments shield
          have unchanged := ((outdated.of_same same).guards guard).1
          subst unchanged
          rw [(outdated.of_same same).records records, same]
      | attached _ shield guard _ clear =>
          have same := protectVolume_sameAttachments shield
          rcases (outdated.of_same same).guards guard with ⟨rfl, isCopy⟩
          rw [isCopy _ rfl] at clear
          rw [(outdated.of_same same).clears clear, same]
      | published _ shield guard _ publish =>
          have same := protectVolume_sameAttachments shield
          rcases (outdated.of_same same).guards guard with ⟨rfl, isCopy⟩
          rw [isCopy _ rfl] at publish
          rw [(outdated.of_same same).publishes publish, same]
  | detach _ _ _ ends =>
      cases ends with
      | unguarded => rfl
      | unknownNode _ _ records | noVolume _ _ _ records | unprepared _ _ _ _ records =>
          rw [outdated.records records]
      | failed _ _ _ _ _ _ records =>
          rw [(outdated.called _).records records]
          rfl
      | detached _ _ _ _ _ _ marks =>
          rw [(outdated.called _).marks marks]
          rfl

/-- Work with a copy of an attachment changes nothing of it unless the copy is the stored one, and
then one of the fates is what becomes of it. -/
theorem Site.IsCopy.sync (isCopy : before.IsCopy attachment) (isNamed : before.IsNamed)
    (ends : (reconciler.syncAttachment attachment).Ends circumstances before result after) :
    after.attachments = before.attachments ∨
      Table.find? before.attachments attachment.name = some attachment ∧
        HasFate reconciler before attachment after := by
  rcases isCopy.stored_or_outdated with stored | outdated
  · exact .inr ⟨stored, sync_hasFate isNamed stored ends⟩
  · exact .inl (outdated.sync ends)

end VolumeAttacher.Reconcile
