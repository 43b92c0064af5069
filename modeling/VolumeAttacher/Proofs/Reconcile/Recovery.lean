import VolumeAttacher.Proofs.Cluster.SimulatedSite
import VolumeAttacher.Proofs.Reconcile.Target

/-!
# Recovery

Work on an attachment that has gone wrong somewhere is made up for by doing it once more. Each write
of the work, completed or not, leaves the target as it is; so whichever of them were refused, and
however the driver has failed, the target is still there, and work in which nothing goes wrong
reaches it.

`Leads` says this of one end of the work, and is shown course by course. `Engaged` and `Withdrawing`
are what is known while the driver's part of the work goes on: the attachment is stored as the work
has it at hand, and its target is the one that there was at the beginning.
-/

namespace VolumeAttacher.Reconcile

open Reconciler

/-- What an end of the work on the attachment under a name has to do with the target: an attachment
that is still stored has it still, and if nothing has gone wrong, or the attachment is gone, it has
been reached. -/
structure Leads (reconciler : Reconciler) (publishContext : Table String)
    (circumstances : Circumstances) (name : String) (goal : Contents × Except Failure Unit)
    (result : Except Failure Unit) (after : Site) : Prop where
  isNamed : after.IsNamed
  addressed : ∀ kept, Table.find? after.attachments name = some kept →
    reconciler.isAddressee kept = true
  inReach : ∀ kept, Table.find? after.attachments name = some kept →
    reconciler.target after.backdrop publishContext after.contents kept.bare = goal
  reached : circumstances.IsSmooth ∨ Table.find? after.attachments name = none →
    (after.contents, result) = goal

/-- Whether an attachment that the work is on is the stored one. -/
structure AtHand (reconciler : Reconciler) (site : Site) (attachment : VolumeAttachment) :
    Prop where
  isNamed : site.IsNamed
  stored : Table.find? site.attachments attachment.name = some attachment
  addressee : reconciler.isAddressee attachment = true

variable {reconciler : Reconciler} {publishContext : Table String}
  {circumstances : Circumstances} {goal : Contents × Except Failure Unit}
  {result : Except Failure Unit} {before site after : Site}
  {attachment new : VolumeAttachment} {volume : PersistentVolume} {volumeName : String}

theorem Site.contents_attachments
    (stored : Table.find? site.attachments attachment.name = some attachment) :
    site.contents.attachments attachment.name = some attachment.bare := by
  simp [Site.contents, stored]

theorem Site.contents_set_self
    (stored : Table.find? site.attachments attachment.name = some attachment) :
    site.contents.set attachment.name (some attachment.bare) = site.contents := by
  rw [← Site.contents_attachments stored, Contents.set_self]

namespace AtHand

theorem addressee_bare (atHand : AtHand reconciler site attachment) :
    reconciler.isAddressee attachment.bare = true :=
  atHand.addressee

theorem store (atHand : AtHand reconciler site attachment)
    (sets : site.Sets attachment.name (some new) after)
    (sameName : new.name = attachment.name) (sameSpec : new.spec = attachment.spec) :
    AtHand reconciler after new where
  isNamed := by
    refine sets.isNamed atHand.isNamed ?_
    intro other same
    cases same
    exact sameName
  stored := by
    rw [sameName]
    exact sets.found
  addressee := (isAddressee_eq_of_spec_eq sameSpec).trans atHand.addressee

theorem leads (atHand : AtHand reconciler after attachment)
    {name : String} (sameName : attachment.name = name)
    (inReach : reconciler.target after.backdrop publishContext after.contents attachment.bare =
      goal)
    (reached : circumstances.IsSmooth → (after.contents, result) = goal) :
    Leads reconciler publishContext circumstances name goal result after where
  isNamed := atHand.isNamed
  addressed kept found := by
    cases atHand.stored.symm.trans (sameName ▸ found)
    exact atHand.addressee
  inReach kept found := by
    cases atHand.stored.symm.trans (sameName ▸ found)
    exact inReach
  reached := by
    rintro (isSmooth | gone)
    · exact reached isSmooth
    · exact absurd (atHand.stored.symm.trans (sameName ▸ gone)) (by simp)

theorem called (atHand : AtHand reconciler site attachment) (call : Csi.Call) :
    AtHand reconciler (site.called call) attachment :=
  ⟨⟨atHand.isNamed.attachments, atHand.isNamed.volumes⟩, atHand.stored, atHand.addressee⟩

/-- What may become of recording a failure. -/
theorem records_cases {operation : Operation} {failure : Failure}
    (atHand : AtHand reconciler site attachment)
    (unfinished : Shelf.isFinished attachment = false)
    (records : Records circumstances operation attachment failure site after) :
    (after = site ∧ circumstances.refusable) ∨
      ∃ new, site.Sets attachment.name (some new) after ∧
        new.bare = failed operation attachment.bare failure := by
  rcases records with ⟨time, answer, answered⟩
  rcases answered.status_cases atHand.stored unfinished with
    ⟨_, _, same, refusable⟩ | ⟨_, _, sets, version, rfl⟩
  · exact .inl ⟨same, refusable⟩
  · refine .inr ⟨_, sets, ?_⟩
    rw [VolumeAttachment.bare_stamped]
    exact bare_recorded attachment operation failure time

end AtHand

/-- Why the work on an attachment cannot succeed. -/
def Fails (reconciler : Reconciler) (backdrop : Backdrop) (operation : Operation)
    (volumes : String → Option PersistentVolume) (attachment : VolumeAttachment)
    (failure : Failure) : Prop :=
  match operation with
  | .attach =>
      attachment.isDeleting = false ∧ reconciler.attachProspect volumes attachment = .error failure
  | .detach =>
      attachment.isDeleting = true ∧
        reconciler.detachProspect backdrop volumes attachment = .error failure

namespace Fails

variable {operation : Operation} {failure : Failure}

theorem target_eq {backdrop : Backdrop} {contents : Contents} (ready : reconciler.ready = true)
    (addressee : reconciler.isAddressee attachment = true)
    (fails : Fails reconciler backdrop operation contents.volumes attachment failure) :
    reconciler.target backdrop publishContext contents attachment =
      (contents.set attachment.name (some (failed operation attachment failure)),
        .error failure) := by
  cases operation with
  | attach =>
      rcases fails with ⟨notDeleting, prospect⟩
      simp [Reconciler.target, addressee, ready, notDeleting, Reconciler.attachTarget, prospect]
  | detach =>
      rcases fails with ⟨deleting, prospect⟩
      simp [Reconciler.target, addressee, ready, deleting, Reconciler.detachTarget, prospect]

theorem failed_fails {backdrop : Backdrop} {volumes : String → Option PersistentVolume}
    (fails : Fails reconciler backdrop operation volumes attachment failure) :
    Fails reconciler backdrop operation volumes (failed operation attachment failure) failure := by
  cases operation with
  | attach => exact ⟨fails.1, (attachProspect_eq rfl rfl).trans fails.2⟩
  | detach => exact ⟨fails.1, (detachProspect_eq rfl rfl).trans fails.2⟩

theorem not_isFinished {backdrop : Backdrop} {volumes : String → Option PersistentVolume}
    (fails : Fails reconciler backdrop operation volumes attachment.bare failure) :
    Shelf.isFinished attachment = false := by
  cases operation with
  | attach =>
      have notDeleting : attachment.metadata.isDeleting = false := fails.1
      simp [Shelf.isFinished, Versioned.metadata, notDeleting]
  | detach =>
      have prospect := fails.2
      unfold detachProspect at prospect
      split at prospect
      · contradiction
      next carries =>
          have carries : attachment.bare.metadata.hasFinalizer reconciler.finalizer = true := by
            simpa using carries
          exact (Shelf.not_isFinished carries : Shelf.isFinished attachment.bare = false)

/-- Work that cannot succeed leads to the failure being recorded. -/
theorem leads (fails : Fails reconciler site.backdrop operation site.contents.volumes
      attachment.bare failure)
    (ready : reconciler.ready = true) (atHand : AtHand reconciler site attachment)
    (records : Records circumstances operation attachment failure site after) :
    Leads reconciler publishContext circumstances attachment.name
      (reconciler.target site.backdrop publishContext site.contents attachment.bare)
      (.error failure) after := by
  rcases atHand.records_cases fails.not_isFinished records with
    ⟨rfl, refusable⟩ | ⟨new, sets, recorded⟩
  · exact atHand.leads rfl rfl fun isSmooth => absurd refusable isSmooth.granted
  · have sameName : new.bare.name = attachment.bare.name := by rw [recorded]; rfl
    have sameSpec : new.bare.spec = attachment.bare.spec := by rw [recorded]; rfl
    have contents : after.contents = site.contents.set attachment.bare.name
        (some (failed operation attachment.bare failure)) := by
      rw [sets.contents, ← recorded]
      rfl
    have failsAfter : Fails reconciler after.backdrop operation after.contents.volumes new.bare
        failure := by
      rw [contents, recorded, sets.backdrop]
      exact fails.failed_fails
    have atHandAfter := atHand.store sets sameName sameSpec
    rw [fails.target_eq ready atHand.addressee_bare, ← contents]
    refine atHandAfter.leads sameName ?_ fun _ => rfl
    rw [failsAfter.target_eq ready atHandAfter.addressee_bare, recorded, failed_failed, contents]
    exact congrArg (·, _) (Contents.set_set _ _ _ _)

end Fails

/-- What is known while an attachment at hand is being attached to a volume, which is stored with
the finalizer or without. -/
structure Engaged (reconciler : Reconciler) (publishContext : Table String) (volumeName : String)
    (volume : PersistentVolume) (goal : Contents × Except Failure Unit) (site : Site)
    (attachment : VolumeAttachment) : Prop extends AtHand reconciler site attachment where
  named : attachment.volumeName? = some volumeName
  notDeleting : attachment.isDeleting = false
  owned : volume.isOwnedBy reconciler.driver = true
  volumeNotDeleting : volume.metadata.isDeleting = false
  found : site.contents.volumes volumeName = some volume.bare ∨
    site.contents.volumes volumeName = some (reconciler.shielded volume.bare)
  goal_eq :
    ((site.contents.setVolume volumeName (some (reconciler.shielded volume.bare))).set
        attachment.name
        (some (reconciler.engagedOutcome site.backdrop publishContext volume.bare
          attachment.bare).1),
      (reconciler.engagedOutcome site.backdrop publishContext volume.bare attachment.bare).2) =
      goal

theorem attachProspect_of_found {volumes : String → Option PersistentVolume}
    (named : attachment.volumeName? = some volumeName)
    (found : volumes volumeName = some volume)
    (owned : volume.isOwnedBy reconciler.driver = true)
    (notDeleting : volume.metadata.isDeleting = false) :
    reconciler.attachProspect volumes attachment = .ok (some (volumeName, volume)) := by
  simp [attachProspect, named, found, owned, notDeleting]

namespace Engaged

theorem target_eq (ready : reconciler.ready = true)
    (engaged : Engaged reconciler publishContext volumeName volume goal site attachment) :
    reconciler.target site.backdrop publishContext site.contents attachment.bare = goal := by
  have named : attachment.bare.volumeName? = some volumeName := engaged.named
  have notDeleting : attachment.bare.isDeleting = false := engaged.notDeleting
  have owned : volume.bare.isOwnedBy reconciler.driver = true := engaged.owned
  have volumeNotDeleting : volume.bare.metadata.isDeleting = false := engaged.volumeNotDeleting
  have attaches : reconciler.target site.backdrop publishContext site.contents attachment.bare =
      reconciler.attachTarget site.backdrop publishContext site.contents attachment.bare := by
    simp [target, engaged.addressee_bare, ready, notDeleting]
  rw [attaches, attachTarget, ← engaged.goal_eq]
  rcases engaged.found with found | found
  · rw [attachProspect_of_found named found owned volumeNotDeleting]
    rfl
  · rw [attachProspect_of_found named found ((isOwnedBy_shielded _ _ _).trans owned)
      ((isDeleting_shielded _ _).trans volumeNotDeleting)]
    dsimp only
    rw [shielded_shielded, engagedOutcome_shielded]
    rfl

theorem leads_back (ready : reconciler.ready = true)
    (engaged : Engaged reconciler publishContext volumeName volume goal site attachment)
    {name : String} (sameName : attachment.name = name)
    (wrong : ¬ circumstances.IsSmooth) :
    Leads reconciler publishContext circumstances name goal result site :=
  engaged.toAtHand.leads sameName (engaged.target_eq ready) fun isSmooth => absurd isSmooth wrong

theorem leads_home (ready : reconciler.ready = true)
    (engaged : Engaged reconciler publishContext volumeName volume goal site attachment)
    {name : String} (sameName : attachment.name = name)
    (isShielded : site.contents.volumes volumeName = some (reconciler.shielded volume.bare))
    (settled : reconciler.engagedOutcome site.backdrop publishContext volume.bare
      attachment.bare = (attachment.bare, result)) :
    Leads reconciler publishContext circumstances name goal result site := by
  refine engaged.toAtHand.leads sameName (engaged.target_eq ready) fun _ => ?_
  rw [← engaged.goal_eq, settled, ← isShielded, Contents.setVolume_self]
  dsimp only
  rw [Site.contents_set_self engaged.stored]

/-- The attachment is changed without any change of what it is to become. -/
theorem store (engaged : Engaged reconciler publishContext volumeName volume goal site attachment)
    (sets : site.Sets attachment.name (some new) after)
    (sameName : new.bare.name = attachment.bare.name)
    (sameSpec : new.bare.spec = attachment.bare.spec)
    (sameDeleting : new.bare.isDeleting = attachment.bare.isDeleting)
    (sameOutcome : reconciler.engagedOutcome site.backdrop publishContext volume.bare new.bare =
      reconciler.engagedOutcome site.backdrop publishContext volume.bare attachment.bare) :
    Engaged reconciler publishContext volumeName volume goal after new where
  toAtHand := engaged.toAtHand.store sets sameName sameSpec
  named := (volumeName?_eq_of_spec_eq sameSpec).trans engaged.named
  notDeleting := sameDeleting.trans engaged.notDeleting
  owned := engaged.owned
  volumeNotDeleting := engaged.volumeNotDeleting
  found := by
    rw [sets.contents]
    exact engaged.found
  goal_eq := by
    have sameName : new.name = attachment.name := sameName
    rw [← engaged.goal_eq, sets.contents, sets.backdrop, sameOutcome, sameName]
    simp

/-- The attachment becomes what it is to become. -/
theorem arrives (ready : reconciler.ready = true)
    (engaged : Engaged reconciler publishContext volumeName volume goal site attachment)
    {name : String} (sameName : attachment.name = name)
    (isShielded : site.contents.volumes volumeName = some (reconciler.shielded volume.bare))
    (sets : site.Sets attachment.name (some new) after)
    (becomes : reconciler.engagedOutcome site.backdrop publishContext volume.bare
      attachment.bare = (new.bare, result)) :
    Leads reconciler publishContext circumstances name goal result after := by
  have isOutcome : new.bare = (reconciler.engagedOutcome site.backdrop publishContext volume.bare
      attachment.bare).1 := by rw [becomes]
  have settled : reconciler.engagedOutcome site.backdrop publishContext volume.bare new.bare =
      (new.bare, result) := by
    rw [isOutcome, engagedOutcome_engagedOutcome, becomes]
  have metadata : new.bare.metadata =
      (reconciler.guarded site.backdrop attachment.bare).metadata := by
    rw [isOutcome]
    exact metadata_publishOutcome
  have spec : new.bare.spec = (reconciler.guarded site.backdrop attachment.bare).spec := by
    rw [isOutcome]
    exact spec_publishOutcome
  have newName : new.bare.name = attachment.bare.name := by
    rw [VolumeAttachment.name, metadata]
    exact name_guarded _ _ _
  have deleting : new.bare.isDeleting = attachment.bare.isDeleting := by
    rw [VolumeAttachment.isDeleting, metadata]
    exact isDeleting_guarded _ _ _
  have engagedAfter := engaged.store sets newName (spec.trans (spec_guarded _ _ _)) deleting
    (settled.trans becomes.symm)
  refine engagedAfter.leads_home ready (newName.trans sameName) ?_ ?_
  · rw [sets.contents]
    exact isShielded
  · rw [sets.backdrop]
    exact settled

theorem not_isFinished
    (engaged : Engaged reconciler publishContext volumeName volume goal site attachment) :
    Shelf.isFinished attachment = false := by
  have notDeleting : attachment.metadata.isDeleting = false := engaged.notDeleting
  simp [Shelf.isFinished, Versioned.metadata, notDeleting]

/-- Something has gone wrong, and has been recorded if that was not refused too. -/
theorem records_leads_back {failure : Failure} (ready : reconciler.ready = true)
    (engaged : Engaged reconciler publishContext volumeName volume goal site attachment)
    {name : String} (sameName : attachment.name = name)
    (wrong : ¬ circumstances.IsSmooth)
    (records : Records circumstances .attach attachment failure site after) :
    Leads reconciler publishContext circumstances name goal result after := by
  rcases engaged.records_cases engaged.not_isFinished records with
    ⟨rfl, _⟩ | ⟨new, sets, recorded⟩
  · exact engaged.leads_back ready sameName wrong
  · have newName : new.bare.name = attachment.bare.name := by rw [recorded]; rfl
    have engagedAfter := engaged.store sets newName (by rw [recorded]; rfl) (by rw [recorded]; rfl)
      (by rw [recorded, engagedOutcome_failed])
    exact engagedAfter.leads_back ready (newName.trans sameName) wrong

theorem called (engaged : Engaged reconciler publishContext volumeName volume goal site attachment)
    (call : Csi.Call) :
    Engaged reconciler publishContext volumeName volume goal (site.called call) attachment where
  toAtHand := engaged.toAtHand.called call
  named := engaged.named
  notDeleting := engaged.notDeleting
  owned := engaged.owned
  volumeNotDeleting := engaged.volumeNotDeleting
  found := engaged.found
  goal_eq := engaged.goal_eq

theorem storeVolume {newVolume : PersistentVolume}
    (engaged : Engaged reconciler publishContext volumeName volume goal site attachment)
    (sets : site.SetsVolume volumeName newVolume after)
    (sameName : newVolume.name = volumeName)
    (isShielded : newVolume.bare = reconciler.shielded volume.bare) :
    Engaged reconciler publishContext volumeName volume goal after attachment ∧
      after.contents.volumes volumeName = some (reconciler.shielded volume.bare) := by
  have contents : after.contents = site.contents.setVolume volumeName
      (some (reconciler.shielded volume.bare)) := by rw [sets.contents, isShielded]
  have found : after.contents.volumes volumeName = some (reconciler.shielded volume.bare) := by
    rw [contents, Contents.volumes_setVolume]
  refine ⟨⟨⟨sets.isNamed engaged.isNamed sameName, ?_, engaged.addressee⟩, engaged.named,
    engaged.notDeleting, engaged.owned, engaged.volumeNotDeleting, .inr found, ?_⟩, found⟩
  · rw [sets.attachments]
    exact engaged.stored
  · rw [← engaged.goal_eq, contents, sets.backdrop, Contents.setVolume_setVolume]

/-- What may become of putting the finalizer on the volume. -/
theorem protectVolume_cases
    (engaged : Engaged reconciler publishContext volumeName volume goal site attachment)
    (stored : Table.find? site.volumes volumeName = some volume)
    (ends : (reconciler.protectVolume volume).Ends circumstances site result after) :
    (∃ failure, result = .error failure ∧ after = site ∧ circumstances.refusable) ∨
      result = .ok () ∧
        Engaged reconciler publishContext volumeName volume goal after attachment ∧
        after.contents.volumes volumeName = some (reconciler.shielded volume.bare) ∧
        site.SameBesidesVolumes after := by
  have sameName : volume.name = volumeName := engaged.isNamed.volumes stored
  unfold protectVolume at ends
  split at ends
  next =>
      rcases (Action.ends_discard (Action.writeVolume volume _)).mp ends with ⟨answer, writes, rfl⟩
      have answered := (Action.ends_writeVolume _ _).mp writes
      have unfinished : Shelf.isFinished (reconciler.shielded volume) = false :=
        Shelf.not_isFinished (Metadata.hasFinalizer_addFinalizer _ _)
      rcases answered.volume_cases (sameName ▸ stored) unfinished with
        ⟨failure, rfl, same, refusable⟩ | ⟨written, rfl, sets, version, isWritten⟩
      · exact .inl ⟨failure, rfl, same, refusable⟩
      · have isShielded : written.bare = reconciler.shielded volume.bare := by
          rw [isWritten, PersistentVolume.bare_stamped]
          exact bare_shielded reconciler volume
        have writtenName : written.name = volume.name := by
          rw [isWritten]
          exact Metadata.displayName_addFinalizer _ _
        have stored := engaged.storeVolume (sameName ▸ sets) (writtenName.trans sameName) isShielded
        exact .inr ⟨rfl, stored.1, stored.2, sets.toSameBesidesVolumes⟩
  next carries =>
      have carries : volume.metadata.hasFinalizer reconciler.finalizer = true := by
        simpa using carries
      rcases ends with ⟨rfl, rfl⟩
      refine .inr ⟨rfl, engaged, ?_, ⟨rfl, rfl, rfl⟩⟩
      rw [shielded_of_hasFinalizer reconciler volume.bare carries]
      simp [Site.contents, stored]

/-- What may become of putting the finalizer on the attachment. -/
theorem protectAttachment_cases {result : Except Failure VolumeAttachment}
    (engaged : Engaged reconciler publishContext volumeName volume goal site attachment)
    (ends : (reconciler.protectAttachment attachment
      (site.backdrop.nodeId reconciler attachment.spec.nodeName none)).Ends circumstances site
        result after) :
    (∃ failure, result = .error failure ∧ after = site ∧ circumstances.refusable) ∨
      ∃ copy, result = .ok copy ∧ site.Sets attachment.name (some copy) after ∧
        copy.bare = reconciler.guarded site.backdrop attachment.bare := by
  unfold protectAttachment at ends
  split at ends
  next carries =>
      rcases ends with ⟨rfl, rfl⟩
      refine .inr ⟨attachment, rfl, ?_,
        (guarded_of_hasFinalizer reconciler _ attachment.bare carries).symm⟩
      rw [← engaged.stored]
      exact Site.Sets.refl _ _
  next lacks =>
      have answered := (Action.ends_writeAttachment _ _).mp ends
      have unfinished : Shelf.isFinished (reconciler.protectedAttachment attachment
          (site.backdrop.nodeId reconciler attachment.spec.nodeName none)) = false :=
        Shelf.not_isFinished (hasFinalizer_protectedAttachment _ _)
      rcases answered.attachment_cases engaged.stored with
        ⟨failure, rfl, same, refusable⟩ | ⟨written, rfl, sets, version, isWritten⟩
      · exact .inl ⟨failure, rfl, same, refusable⟩
      · rw [unfinished] at sets
        refine .inr ⟨written, rfl, sets, ?_⟩
        rw [guarded_of_not_hasFinalizer _ _ attachment.bare lacks, isWritten,
          protectedAttachment_keeps_status, VolumeAttachment.bare_stamped,
          bare_protectedAttachment]
        rfl

theorem guards (engaged : Engaged reconciler publishContext volumeName volume goal site attachment)
    (sets : site.Sets attachment.name (some new) after)
    (isGuarded : new.bare = reconciler.guarded site.backdrop attachment.bare) :
    Engaged reconciler publishContext volumeName volume goal after new := by
  apply engaged.store sets
  · rw [isGuarded, name_guarded]
  · rw [isGuarded, spec_guarded]
  · rw [isGuarded, isDeleting_guarded]
  · rw [isGuarded, engagedOutcome_guarded]

structure Secured (reconciler : Reconciler) (publishContext : Table String) (volumeName : String)
    (volume : PersistentVolume) (goal : Contents × Except Failure Unit) (before : Site)
    (attachment copy : VolumeAttachment) (nodeId : Except Failure String) (site : Site) : Prop where
  engaged : Engaged reconciler publishContext volumeName volume goal site copy
  isShielded : site.contents.volumes volumeName = some (reconciler.shielded volume.bare)
  isGuarded : copy.bare = reconciler.guarded before.backdrop attachment.bare
  isNodeId : nodeId = before.backdrop.nodeId reconciler attachment.spec.nodeName none
  backdrop : site.backdrop = before.backdrop
  calls : site.calls = before.calls
  stores : before.attachments.Sets attachment.name (some copy) site.attachments

namespace Secured

variable {copy : VolumeAttachment} {nodeId : Except Failure String}

theorem sameName (secured : Secured reconciler publishContext volumeName volume goal before
    attachment copy nodeId site) : copy.name = attachment.name := by
  have sameName : copy.bare.name = attachment.bare.name := by
    rw [secured.isGuarded, name_guarded]
  exact sameName

theorem carries (secured : Secured reconciler publishContext volumeName volume goal before
    attachment copy nodeId site) :
    copy.bare.metadata.hasFinalizer reconciler.finalizer = true := by
  rw [secured.isGuarded]
  exact hasFinalizer_guarded _ _ _

theorem sameNodeId (secured : Secured reconciler publishContext volumeName volume goal before
    attachment copy nodeId site) :
    site.backdrop.nodeId reconciler copy.spec.nodeName none = nodeId := by
  have sameSpec : copy.bare.spec = attachment.bare.spec := by
    rw [secured.isGuarded, spec_guarded]
  have sameSpec : copy.spec = attachment.spec := sameSpec
  rw [secured.backdrop, sameSpec, secured.isNodeId]

end Secured

theorem secures {shielded : Site} {copy : VolumeAttachment}
    (engaged : Engaged reconciler publishContext volumeName volume goal site attachment)
    (stored : Table.find? site.volumes volumeName = some volume)
    (shield : (reconciler.protectVolume volume).Ends circumstances site (.ok ()) shielded)
    (guard : (reconciler.protectAttachment attachment
      (shielded.backdrop.nodeId reconciler attachment.spec.nodeName none)).Ends circumstances
        shielded (.ok copy) after) :
    Secured reconciler publishContext volumeName volume goal site attachment copy
      (shielded.backdrop.nodeId reconciler attachment.spec.nodeName none) after := by
  rcases engaged.protectVolume_cases stored shield with
    ⟨_, same, _⟩ | ⟨_, engaged, isShielded, same⟩
  · contradiction
  · rcases engaged.protectAttachment_cases guard with ⟨_, same, _⟩ | ⟨_, isCopy, sets, isGuarded⟩
    · contradiction
    · cases isCopy
      refine ⟨engaged.guards sets isGuarded, ?_, ?_, ?_, ?_, ?_, ?_⟩
      · rw [sets.contents]
        exact isShielded
      · rw [isGuarded, same.backdrop]
      · rw [same.backdrop]
      · rw [sets.backdrop, same.backdrop]
      · rw [sets.calls, same.calls]
      · rw [← same.attachments]
        exact sets.toSets

theorem clear_leads (ready : reconciler.ready = true)
    (engaged : Engaged reconciler publishContext volumeName volume goal site attachment)
    {name : String} (sameName : attachment.name = name)
    (isShielded : site.contents.volumes volumeName = some (reconciler.shielded volume.bare))
    (carries : attachment.bare.metadata.hasFinalizer reconciler.finalizer = true)
    (attached : attachment.isAttached = true)
    (ends : (clearAttachError attachment).Ends circumstances site result after) :
    Leads reconciler publishContext circumstances name goal result after := by
  have becomes : reconciler.engagedOutcome site.backdrop publishContext volume.bare
      attachment.bare = (withoutAttachError attachment.bare, .ok ()) := by
    rw [engagedOutcome, guarded_of_hasFinalizer _ _ _ carries]
    exact publishOutcome_of_attached ((VolumeAttachment.isAttached_bare _).trans attached)
  unfold clearAttachError at ends
  split at ends
  next =>
      rcases (Action.ends_discard (Action.writeStatus attachment _)).mp ends with
        ⟨answer, writes, rfl⟩
      have answered := (Action.ends_writeStatus _ _).mp writes
      rcases answered.status_cases engaged.stored engaged.not_isFinished with
        ⟨failure, rfl, rfl, refusable⟩ | ⟨written, rfl, sets, version, isWritten⟩
      · exact engaged.leads_back ready sameName fun isSmooth => isSmooth.granted refusable
      · refine engaged.arrives ready sameName isShielded sets (becomes.trans ?_)
        rw [isWritten, VolumeAttachment.bare_stamped, ← bare_withoutAttachError]
        rfl
  next fresh =>
      rcases ends with ⟨rfl, rfl⟩
      refine engaged.leads_home ready sameName isShielded (becomes.trans ?_)
      rw [bare_of_no_attachError attachment (by simpa using fresh)]

theorem publish_leads (ready : reconciler.ready = true)
    (confirms : circumstances.Confirms publishContext)
    (engaged : Engaged reconciler publishContext volumeName volume goal site attachment)
    {name : String} (sameName : attachment.name = name)
    (isShielded : site.contents.volumes volumeName = some (reconciler.shielded volume.bare))
    (carries : attachment.bare.metadata.hasFinalizer reconciler.finalizer = true)
    (notAttached : attachment.isAttached = false)
    (ends : PublishEnds circumstances reconciler attachment volume
      (site.backdrop.nodeId reconciler attachment.spec.nodeName none) site result after) :
    Leads reconciler publishContext circumstances name goal result after := by
  have becomes : reconciler.engagedOutcome site.backdrop publishContext volume.bare
      attachment.bare =
        reconciler.publishOutcome site.backdrop publishContext volume.bare attachment.bare := by
    rw [engagedOutcome, guarded_of_hasFinalizer _ _ _ carries]
  have notAttached : attachment.bare.isAttached = false :=
    (VolumeAttachment.isAttached_bare _).trans notAttached
  cases ends with
  | @unsent failure _ unsent records =>
      rcases engaged.records_cases engaged.not_isFinished records with
        ⟨rfl, refusable⟩ | ⟨new, sets, recorded⟩
      · exact engaged.leads_back ready sameName fun isSmooth => isSmooth.granted refusable
      · refine engaged.arrives ready sameName isShielded sets (becomes.trans ?_)
        rw [recorded]
        exact publishOutcome_of_unsent notAttached unsent
  | @failed request error _ sent reply records =>
      exact (engaged.called _).records_leads_back ready sameName
        (fun isSmooth => isSmooth.publishes _ _ reply) records
  | @confirmed request response written _ sent reply answered =>
      have engagedAfter := engaged.called (publishCall request)
      rcases answered.status_cases engagedAfter.stored engaged.not_isFinished with
        ⟨failure, rfl, rfl, refusable⟩ | ⟨written, rfl, sets, version, isWritten⟩
      · exact engagedAfter.leads_back ready sameName fun isSmooth => isSmooth.granted refusable
      · refine engagedAfter.arrives ready sameName isShielded sets (becomes.trans ?_)
        refine (publishOutcome_of_sent notAttached sent).trans ?_
        rw [isWritten, VolumeAttachment.bare_stamped, confirms _ _ reply, ← bare_attached]
        rfl

end Engaged

theorem Engages.engaged (publishContext : Table String)
    (engages : Engages reconciler attachment volumeName volume site)
    (ready : reconciler.ready = true) (atHand : AtHand reconciler site attachment)
    (notDeleting : attachment.isDeleting = false) :
    Engaged reconciler publishContext volumeName volume
      (reconciler.target site.backdrop publishContext site.contents attachment.bare) site
      attachment := by
  have found : site.contents.volumes volumeName = some volume.bare := by
    simp [Site.contents, engages.found]
  have engaged : Engaged reconciler publishContext volumeName volume _ site attachment :=
    ⟨atHand, engages.named, notDeleting, engages.owned, engages.notDeleting, .inl found, rfl⟩
  rw [engaged.target_eq ready]
  exact engaged

theorem attach_leads (ready : reconciler.ready = true)
    (confirms : circumstances.Confirms publishContext)
    (atHand : AtHand reconciler site attachment) (notDeleting : attachment.isDeleting = false)
    (ends : AttachEnds circumstances reconciler attachment site result after) :
    Leads reconciler publishContext circumstances attachment.name
      (reconciler.target site.backdrop publishContext site.contents attachment.bare) result
      after := by
  have bareName : attachment.bare.volumeName? = attachment.volumeName? := rfl
  cases ends with
  | noVolume unnamed records =>
      refine Fails.leads ?_ ready atHand records
      exact ⟨notDeleting, by simp [attachProspect, bareName, unnamed]; rfl⟩
  | missing named missing records =>
      refine Fails.leads ?_ ready atHand records
      exact ⟨notDeleting, by simp [attachProspect, bareName, named, Site.contents, missing]⟩
  | @foreign volumeName volume named found foreign =>
      have foreign : volume.bare.isOwnedBy reconciler.driver = false := foreign
      have notDeleting : attachment.bare.isDeleting = false := notDeleting
      have leaves : reconciler.target site.backdrop publishContext site.contents attachment.bare =
          (site.contents, .ok ()) := by
        simp [target, atHand.addressee_bare, ready, notDeleting, attachTarget, attachProspect,
          bareName, named, Site.contents, found, foreign]
      exact atHand.leads rfl rfl fun _ => leaves.symm
  | @deleting volumeName volume _ named found owned deleting records =>
      have owned : volume.bare.isOwnedBy reconciler.driver = true := owned
      have deleting : volume.bare.metadata.isDeleting = true := deleting
      refine Fails.leads ?_ ready atHand records
      exact ⟨notDeleting, by
        simp [attachProspect, bareName, named, Site.contents, found, owned, deleting]⟩
  | unshielded engages shield records =>
      have engaged := engages.engaged publishContext ready atHand notDeleting
      rcases engaged.protectVolume_cases engages.found shield with
        ⟨_, _, rfl, refusable⟩ | ⟨same, _⟩
      · exact engaged.records_leads_back ready rfl (fun isSmooth => isSmooth.granted refusable)
          records
      · contradiction
  | unguarded engages shield guard records =>
      have engaged := engages.engaged publishContext ready atHand notDeleting
      rcases engaged.protectVolume_cases engages.found shield with
        ⟨_, same, _⟩ | ⟨_, engaged, _, _⟩
      · contradiction
      · rcases engaged.protectAttachment_cases guard with ⟨_, _, rfl, refusable⟩ | ⟨_, same, _⟩
        · exact engaged.records_leads_back ready rfl (fun isSmooth => isSmooth.granted refusable)
            records
        · contradiction
  | attached engages shield guard attached clear =>
      have engaged := engages.engaged publishContext ready atHand notDeleting
      have secured := engaged.secures engages.found shield guard
      exact secured.engaged.clear_leads ready secured.sameName secured.isShielded secured.carries
        attached clear
  | published engages shield guard notAttached publish =>
      have engaged := engages.engaged publishContext ready atHand notDeleting
      have secured := engaged.secures engages.found shield guard
      rw [← secured.sameNodeId] at publish
      exact secured.engaged.publish_leads ready confirms secured.sameName secured.isShielded
        secured.carries notAttached publish

/-- What is known while an attachment at hand is being detached. -/
structure Withdrawing (reconciler : Reconciler) (goal : Contents × Except Failure Unit)
    (site : Site) (attachment : VolumeAttachment) : Prop extends
    AtHand reconciler site attachment where
  deleting : attachment.isDeleting = true
  prospect : reconciler.detachProspect site.backdrop site.contents.volumes attachment.bare =
    .ok true
  goal_eq :
    (site.contents.set attachment.name
        (if Shelf.isFinished (reconciler.released attachment.bare) then none
          else some (reconciler.released attachment.bare)),
      .ok ()) = goal

theorem hasFinalizer_of_detachProspect {backdrop : Backdrop}
    {volumes : String → Option PersistentVolume} {prospect : Except Failure Bool}
    (isProspect : reconciler.detachProspect backdrop volumes attachment = prospect)
    (detaches : prospect ≠ .ok false) :
    attachment.metadata.hasFinalizer reconciler.finalizer = true := by
  unfold detachProspect at isProspect
  split at isProspect
  · exact absurd isProspect.symm detaches
  next carries => simpa using carries

theorem target_of_lacks {backdrop : Backdrop} {contents : Contents}
    (ready : reconciler.ready = true) (addressee : reconciler.isAddressee attachment = true)
    (deleting : attachment.isDeleting = true)
    (lacks : attachment.metadata.hasFinalizer reconciler.finalizer = false) :
    reconciler.target backdrop publishContext contents attachment = (contents, .ok ()) := by
  simp [target, addressee, ready, deleting, detachTarget, detachProspect, lacks]

namespace Withdrawing

theorem target_eq (ready : reconciler.ready = true)
    (withdrawing : Withdrawing reconciler goal site attachment) :
    reconciler.target site.backdrop publishContext site.contents attachment.bare = goal := by
  have deleting : attachment.bare.isDeleting = true := withdrawing.deleting
  rw [← withdrawing.goal_eq]
  simp [target, withdrawing.addressee_bare, ready, deleting, detachTarget, withdrawing.prospect]
  rfl

theorem leads_back (ready : reconciler.ready = true)
    (withdrawing : Withdrawing reconciler goal site attachment)
    {name : String} (sameName : attachment.name = name)
    (wrong : ¬ circumstances.IsSmooth) :
    Leads reconciler publishContext circumstances name goal result site :=
  withdrawing.leads sameName (withdrawing.target_eq ready) fun isSmooth => absurd isSmooth wrong

theorem called (withdrawing : Withdrawing reconciler goal site attachment) (call : Csi.Call) :
    Withdrawing reconciler goal (site.called call) attachment :=
  ⟨withdrawing.toAtHand.called call, withdrawing.deleting, withdrawing.prospect,
    withdrawing.goal_eq⟩

theorem not_isFinished (withdrawing : Withdrawing reconciler goal site attachment) :
    Shelf.isFinished attachment = false := by
  have carries : attachment.bare.metadata.hasFinalizer reconciler.finalizer = true :=
    hasFinalizer_of_detachProspect withdrawing.prospect (by simp)
  exact (Shelf.not_isFinished carries : Shelf.isFinished attachment.bare = false)

/-- The status is changed in a way that detaching hides. -/
theorem store {change : AttachmentStatus → AttachmentStatus}
    (withdrawing : Withdrawing reconciler goal site attachment)
    (sets : site.Sets attachment.name (some new) after)
    (changed : new.bare = attachment.bare.withStatus change)
    (hidden : ∀ status, detachedStatus (change status) = detachedStatus status) :
    Withdrawing reconciler goal after new := by
  have sameMetadata : new.bare.metadata = attachment.bare.metadata := by rw [changed]; rfl
  have sameName : new.bare.name = attachment.bare.name :=
    congrArg Metadata.displayName sameMetadata
  have sameSpec : new.bare.spec = attachment.bare.spec := by rw [changed]; rfl
  have sameReleased : reconciler.released new.bare = reconciler.released attachment.bare := by
    rw [changed, released_withStatus hidden]
  refine ⟨withdrawing.toAtHand.store sets sameName sameSpec, ?_, ?_, ?_⟩
  · exact (congrArg Metadata.isDeleting sameMetadata).trans withdrawing.deleting
  · rw [sets.contents, sets.backdrop]
    exact (detachProspect_eq sameMetadata sameSpec).trans withdrawing.prospect
  · have sameName : new.name = attachment.name := sameName
    rw [← withdrawing.goal_eq, sets.contents, sameReleased, sameName, Contents.set_set]

theorem records_leads_back {failure : Failure} (ready : reconciler.ready = true)
    (withdrawing : Withdrawing reconciler goal site attachment)
    {name : String} (sameName : attachment.name = name)
    (wrong : ¬ circumstances.IsSmooth)
    (records : Records circumstances .detach attachment failure site after) :
    Leads reconciler publishContext circumstances name goal result after := by
  rcases withdrawing.records_cases withdrawing.not_isFinished records with
    ⟨rfl, _⟩ | ⟨new, sets, recorded⟩
  · exact withdrawing.leads_back ready sameName wrong
  · have newName : new.bare.name = attachment.bare.name := by rw [recorded]; rfl
    exact (withdrawing.store sets recorded fun _ => rfl).leads_back ready (newName.trans sameName)
      wrong

theorem release_leads {written : Except Failure VolumeAttachment} (ready : reconciler.ready = true)
    (withdrawing : Withdrawing reconciler goal site attachment)
    {name : String} (sameName : attachment.name = name)
    (fresh : attachment.bare.withStatus detachedStatus = attachment.bare)
    (answered : Site.Answered circumstances
      (.writeAttachment attachment
        { attachment with
          metadata := attachment.metadata.removeFinalizer reconciler.finalizer })
      site written after) :
    Leads reconciler publishContext circumstances name goal (written.map fun _ => ()) after := by
  rcases answered.attachment_cases withdrawing.stored with
    ⟨failure, rfl, rfl, refusable⟩ | ⟨written, rfl, sets, version, isWritten⟩
  · exact withdrawing.leads_back ready sameName fun isSmooth => isSmooth.granted refusable
  · have isReleased : written.bare = reconciler.released attachment.bare := by
      rw [isWritten, VolumeAttachment.bare_stamped, ← bare_released reconciler attachment fresh]
    have sets : site.Sets attachment.name
        (if Shelf.isFinished (reconciler.released attachment.bare) then none else some written)
        after := sets
    cases finished : Shelf.isFinished (reconciler.released attachment.bare) with
    | true =>
        rw [finished] at sets
        have gone : Table.find? after.attachments name = none := sameName ▸ sets.found
        refine ⟨sets.isNamed withdrawing.isNamed (by simp), ?_, ?_, fun _ => ?_⟩
        · intro kept found
          exact absurd (gone.symm.trans found) (by simp)
        · intro kept found
          exact absurd (gone.symm.trans found) (by simp)
        · rw [← withdrawing.goal_eq, sets.contents, finished]
          rfl
    | false =>
        rw [finished] at sets
        have writtenName : written.bare.name = attachment.bare.name := by rw [isReleased]; rfl
        have writtenSpec : written.bare.spec = attachment.bare.spec := by rw [isReleased]; rfl
        have atHand := withdrawing.toAtHand.store sets writtenName writtenSpec
        have reached : (after.contents, .ok ()) = goal := by
          rw [← withdrawing.goal_eq, sets.contents, finished, ← isReleased]
          rfl
        have deleting : written.bare.isDeleting = true := by
          rw [isReleased]
          exact withdrawing.deleting
        have lacks : written.bare.metadata.hasFinalizer reconciler.finalizer = false := by
          rw [isReleased]
          exact Metadata.hasFinalizer_removeFinalizer _ _
        refine atHand.leads (writtenName.trans sameName) ?_ fun _ => reached
        rw [target_of_lacks ready atHand.addressee_bare deleting lacks]
        exact reached

theorem mark_leads (ready : reconciler.ready = true)
    (withdrawing : Withdrawing reconciler goal site attachment)
    (ends : MarkEnds circumstances reconciler attachment site result after) :
    Leads reconciler publishContext circumstances attachment.name goal result after := by
  cases ends with
  | uncleared stale clears =>
      rcases clears.status_cases withdrawing.stored withdrawing.not_isFinished with
        ⟨failure, _, rfl, refusable⟩ | ⟨_, same, _⟩
      · exact withdrawing.leads_back ready rfl fun isSmooth => isSmooth.granted refusable
      · contradiction
  | @released cleared middle _ written clears releases =>
      rcases clears with ⟨stale, clears⟩ | ⟨fresh, rfl, rfl⟩
      · rcases clears.status_cases withdrawing.stored withdrawing.not_isFinished with
          ⟨_, same, _⟩ | ⟨_, same, sets, version, isCleared⟩
        · contradiction
        · cases same
          have changed : cleared.bare = attachment.bare.withStatus detachedStatus := by
            rw [isCleared, VolumeAttachment.bare_stamped, ← bare_detached]
            rfl
          have sameName : cleared.bare.name = attachment.bare.name := by rw [changed]; rfl
          refine (withdrawing.store sets changed fun _ => rfl).release_leads ready sameName ?_
            releases
          rw [changed]
          rfl
      · exact withdrawing.release_leads ready rfl (bare_of_not_stale _ fresh) releases

end Withdrawing

theorem AtHand.withdrawing (publishContext : Table String) (ready : reconciler.ready = true)
    (atHand : AtHand reconciler site attachment) (deleting : attachment.isDeleting = true)
    (prospect : reconciler.detachProspect site.backdrop site.contents.volumes attachment.bare =
      .ok true) :
    Withdrawing reconciler
      (reconciler.target site.backdrop publishContext site.contents attachment.bare) site
      attachment := by
  have withdrawing : Withdrawing reconciler _ site attachment := ⟨atHand, deleting, prospect, rfl⟩
  rw [withdrawing.target_eq ready]
  exact withdrawing

theorem detach_leads (ready : reconciler.ready = true)
    (atHand : AtHand reconciler site attachment) (deleting : attachment.isDeleting = true)
    (ends : DetachEnds circumstances reconciler attachment site result after) :
    Leads reconciler publishContext circumstances attachment.name
      (reconciler.target site.backdrop publishContext site.contents attachment.bare) result
      after := by
  cases ends with
  | unguarded lacks =>
      exact atHand.leads rfl rfl fun _ =>
        (target_of_lacks ready atHand.addressee_bare deleting lacks).symm
  | unknownNode carries unknown records =>
      refine Fails.leads ?_ ready atHand records
      exact ⟨deleting, detachProspect_of_unknown carries unknown⟩
  | noVolume carries known unnamed records =>
      refine Fails.leads ?_ ready atHand records
      exact ⟨deleting, detachProspect_of_unnamed carries known unnamed⟩
  | unprepared carries known named unprepared records =>
      refine Fails.leads ?_ ready atHand records
      have isProspect : reconciler.detachProspect site.backdrop site.contents.volumes
          attachment.bare = _ := detachProspect_of_named carries known named
        ((detachInputs_bare _ _).trans unprepared)
      exact ⟨deleting, isProspect⟩
  | failed carries known named prepared reply notFinal records =>
      have isProspect : reconciler.detachProspect site.backdrop site.contents.volumes
          attachment.bare = _ := detachProspect_of_named carries known named
        ((detachInputs_bare _ _).trans prepared)
      have withdrawing := atHand.withdrawing publishContext ready deleting isProspect
      exact (withdrawing.called _).records_leads_back ready rfl
        (fun isSmooth => isSmooth.unpublishes _ _ reply) records
  | detached carries known named prepared reply final marks =>
      have isProspect : reconciler.detachProspect site.backdrop site.contents.volumes
          attachment.bare = _ := detachProspect_of_named carries known named
        ((detachInputs_bare _ _).trans prepared)
      have withdrawing := atHand.withdrawing publishContext ready deleting isProspect
      exact (withdrawing.called _).mark_leads ready marks

/-- However the work on a stored attachment ends, it leads to the target. -/
theorem sync_leads (confirms : circumstances.Confirms publishContext)
    (atHand : AtHand reconciler site attachment)
    (ends : (reconciler.syncAttachment attachment).Ends circumstances site result after) :
    Leads reconciler publishContext circumstances attachment.name
      (reconciler.target site.backdrop publishContext site.contents attachment.bare) result
      after := by
  cases syncAttachment_ends ends with
  | foreign foreign => exact absurd (foreign.symm.trans atHand.addressee) Bool.false_ne_true
  | notReady addressee notReady =>
      have notReadyTarget : reconciler.target site.backdrop publishContext site.contents
          attachment.bare = (site.contents, .error (.settings .notReady)) := by
        simp [target, atHand.addressee_bare, notReady]
      exact atHand.leads rfl rfl fun _ => notReadyTarget.symm
  | attach _ ready notDeleting ends => exact attach_leads ready confirms atHand notDeleting ends
  | detach _ ready deleting ends => exact detach_leads ready atHand deleting ends

/-- Whatever writes have been refused and whatever the driver has answered, work in which nothing
goes wrong makes up for it: it leaves what it would have left without the failed work, with the same
result. If the failed work has removed the attachment, nothing is left to be made up for. What the
first work keeps has the target that the attachment had before it. -/
theorem syncAttachment_recovers {reconciler : Reconciler} {publishContext : Table String}
    {site middle single : Site} {name : String} {attachment : VolumeAttachment}
    {firstResult singleResult : Except Failure Unit} (isNamed : site.IsNamed)
    (stored : Table.find? site.attachments name = some attachment)
    (addressee : reconciler.isAddressee attachment = true)
    (first : (reconciler.syncAttachment attachment).Ends (.rough publishContext) site firstResult
      middle)
    (alone : (reconciler.syncAttachment attachment).Ends (.smooth publishContext) site singleResult
      single) :
    (Table.find? middle.attachments name = none →
      middle.contents = single.contents ∧ firstResult = singleResult) ∧
    ∀ kept, Table.find? middle.attachments name = some kept →
      (∃ result after,
        (reconciler.syncAttachment kept).Ends (.smooth publishContext) middle result after) ∧
      ∀ result after,
        (reconciler.syncAttachment kept).Ends (.smooth publishContext) middle result after →
        after.contents = single.contents ∧ result = singleResult := by
  have sameName : attachment.name = name := isNamed.attachments stored
  subst sameName
  have atHand : AtHand reconciler site attachment := ⟨isNamed, stored, addressee⟩
  have leadsFirst := sync_leads (Circumstances.rough_confirms _) atHand first
  have leadsAlone := sync_leads (Circumstances.smooth_confirms _) atHand alone
  have isTarget := leadsAlone.reached (.inl (Circumstances.smooth_isSmooth _))
  constructor
  · intro gone
    exact Prod.ext_iff.mp ((leadsFirst.reached (.inr gone)).trans isTarget.symm)
  · intro kept found
    have keptName : kept.name = attachment.name := leadsFirst.isNamed.attachments found
    have atHandKept : AtHand reconciler middle kept :=
      ⟨leadsFirst.isNamed, keptName ▸ found, leadsFirst.addressed kept found⟩
    constructor
    · exact Program.exists_ends
        (Site.exists_answered (Circumstances.smooth_replies publishContext)) _ middle
    · intro result after ends
      have leadsAgain := sync_leads (Circumstances.smooth_confirms _) atHandKept ends
      have isSame := leadsAgain.reached (.inl (Circumstances.smooth_isSmooth _))
      rw [leadsFirst.inReach kept found] at isSame
      exact Prod.ext_iff.mp (isSame.trans isTarget.symm)

section RefusedConfirmation

open Simulation

/-- A small cluster that refuses the third write, with which the attachment is to be marked as
attached. -/
def refusingWorld : World :=
  let world := (smallCluster {}).world
  { world with store := { world.store with faults := [.none, .none, .forbidden] } }

def refusedRun : Except Failure Unit × World :=
  refusingWorld.perform (smallReconciler.syncAttachment smallAttachment)

def undisturbedRun : Except Failure Unit × World :=
  (smallCluster {}).world.perform (smallReconciler.syncAttachment smallAttachment)

theorem refusedRun_isSmooth : refusedRun.2.IsSmooth where
  faultless := by decide +kernel
  unscripted := by rfl

theorem syncAttachment_recovers_refusedRun :
    refusedRun.1 ≠ .ok () ∧
    ∃ kept, Table.find? refusedRun.2.site.attachments "va-1" = some kept ∧
      kept.isAttached = false ∧
      (refusedRun.2.perform (smallReconciler.syncAttachment kept)).2.site.contents =
        undisturbedRun.2.site.contents ∧
      (refusedRun.2.perform (smallReconciler.syncAttachment kept)).1 = undisturbedRun.1 := by
  have isNamed : refusingWorld.site.IsNamed :=
    ⟨(smallCluster_isNamed {}).attachments, (smallCluster_isNamed {}).volumes⟩
  have stored : Table.find? refusingWorld.site.attachments "va-1" = some smallAttachment := rfl
  have confirms : refusingWorld.ConfirmsEmpty := by
    intro response member
    exact absurd member List.not_mem_nil
  have first := World.perform_ends_rough (smallReconciler.syncAttachment smallAttachment) confirms
  have isSmooth : (smallCluster {}).world.IsSmooth := ⟨rfl, rfl⟩
  have alone := World.perform_ends_smooth (smallReconciler.syncAttachment smallAttachment) isSmooth
  have failed : refusedRun.1.isOk = false := by decide +kernel
  have present : (Table.find? refusedRun.2.site.attachments "va-1").isSome = true := by
    decide +kernel
  have unattached : (Table.find? refusedRun.2.site.attachments "va-1").any
      VolumeAttachment.isAttached = false := by decide +kernel
  rcases Option.isSome_iff_exists.mp present with ⟨kept, found⟩
  have recovers := (syncAttachment_recovers isNamed stored (by decide) first alone).2 kept found
  rw [found] at unattached
  refine ⟨?_, kept, found, unattached, ?_⟩
  · intro succeeded
    rw [succeeded] at failed
    contradiction
  · exact recovers.2 _ _ (World.perform_ends_smooth _ refusedRun_isSmooth)

end RefusedConfirmation

end VolumeAttacher.Reconcile
