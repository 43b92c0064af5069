import VolumeAttacher.Proofs.Reconcile.CachedNode

/-!
# Whether the attacher can give its finalizer back

Attaching puts the finalizer on an attachment before it has looked up all that the driver is to be
told, and detaching takes it off only after the driver has been told. So an attachment may be given
the finalizer although nothing can be told of it: its node or the secrets for its volume are not
found, or its volume has no handle. When its deletion is asked for, it keeps the finalizer until
they are found. In all other cases one undisturbed work on it takes the finalizer off.
-/

namespace VolumeAttacher.Reconcile

open Reconciler

variable {reconciler : Reconciler} {circumstances : Circumstances}
  {result : Except Failure Unit} {before middle site after : Site}
  {attachment copy kept : VolumeAttachment} {volume : PersistentVolume} {volumeName : String}

/-- Whether of two sites the latter has the same backdrop and volumes, and differs in what is stored
under the name of an attachment at most by the version and the status. -/
structure Site.Retains (before : Site) (attachment : VolumeAttachment) (after : Site) : Prop where
  backdrop : after.backdrop = before.backdrop
  volumes : after.volumes = before.volumes
  kept : ∀ new, Table.find? after.attachments attachment.name = some new →
    new.bare.metadata = attachment.bare.metadata ∧ new.spec = attachment.spec

theorem AtHand.retains (atHand : AtHand reconciler site attachment) :
    site.Retains attachment site where
  backdrop := rfl
  volumes := rfl
  kept new found := by
    cases atHand.stored.symm.trans found
    exact ⟨rfl, rfl⟩

theorem AtHand.retains_of_writeStatus {new : VolumeAttachment}
    {answer : Except Failure VolumeAttachment} (atHand : AtHand reconciler site attachment)
    (unfinished : Shelf.isFinished attachment = false)
    (answered : Site.Answered circumstances (.writeStatus attachment new) site answer after) :
    site.Retains attachment after := by
  rcases answered.status_cases atHand.stored unfinished with
    ⟨_, _, rfl, _⟩ | ⟨_, _, sets, version, rfl⟩
  · exact atHand.retains
  · refine ⟨sets.backdrop, sets.volumes, ?_⟩
    intro kept found
    cases sets.found.symm.trans found
    exact ⟨rfl, rfl⟩

theorem AtHand.retains_of_records {operation : Operation} {failure : Failure}
    (atHand : AtHand reconciler site attachment)
    (unfinished : Shelf.isFinished attachment = false)
    (records : Records circumstances operation attachment failure site after) :
    site.Retains attachment after := by
  rcases records with ⟨_, _, answered⟩
  exact atHand.retains_of_writeStatus unfinished answered

theorem AtHand.retains_of_clear (atHand : AtHand reconciler site attachment)
    (unfinished : Shelf.isFinished attachment = false)
    (clear : (clearAttachError attachment).Ends circumstances site result after) :
    site.Retains attachment after := by
  unfold clearAttachError at clear
  split at clear
  · rcases (Action.ends_discard (Action.writeStatus attachment _)).mp clear with ⟨_, writes, _⟩
    exact atHand.retains_of_writeStatus unfinished ((Action.ends_writeStatus _ _).mp writes)
  · rcases clear with ⟨_, rfl⟩
    exact atHand.retains

theorem AtHand.retains_of_publish {nodeId : Except Failure String}
    (atHand : AtHand reconciler site attachment)
    (unfinished : Shelf.isFinished attachment = false)
    (publish : PublishEnds circumstances reconciler attachment volume nodeId site result after) :
    site.Retains attachment after := by
  have retainsCalled {call : Csi.Call} (retains : (site.called call).Retains attachment after) :
      site.Retains attachment after := ⟨retains.backdrop, retains.volumes, retains.kept⟩
  cases publish with
  | unsent _ records => exact atHand.retains_of_records unfinished records
  | failed _ _ records =>
      exact retainsCalled ((atHand.called _).retains_of_records unfinished records)
  | confirmed _ _ confirms =>
      exact retainsCalled ((atHand.called _).retains_of_writeStatus unfinished confirms)

/-- Whether attaching has put the finalizer on an attachment, after it has put the finalizer on the
volume, and nothing else has changed that is looked up for detaching. -/
structure PutsOn (reconciler : Reconciler) (attachment : VolumeAttachment) (volumeName : String)
    (volume : PersistentVolume) (before after : Site) (kept : VolumeAttachment) : Prop where
  named : attachment.volumeName? = some volumeName
  found : Table.find? before.volumes volumeName = some volume
  isShielded : after.contents.volumes volumeName = some (reconciler.shielded volume.bare)
  backdrop : after.backdrop = before.backdrop
  metadata : kept.bare.metadata = (reconciler.guarded before.backdrop attachment.bare).metadata
  spec : kept.spec = attachment.spec

theorem Engaged.Secured.putsOn {publishContext : Table String}
    {goal : Contents × Except Failure Unit} {nodeId : Except Failure String}
    (secured : Engaged.Secured reconciler publishContext volumeName volume goal before attachment
      copy nodeId site)
    (engages : Engages reconciler attachment volumeName volume before)
    (retains : site.Retains copy after)
    (foundKept : Table.find? after.attachments attachment.name = some kept) :
    PutsOn reconciler attachment volumeName volume before after kept := by
  rcases retains.kept kept (secured.sameName ▸ foundKept) with ⟨sameMetadata, sameSpec⟩
  have copySpec : copy.bare.spec = attachment.bare.spec := by
    rw [secured.isGuarded, spec_guarded]
  have sameVolumes : after.contents.volumes = site.contents.volumes := by
    simp [Site.contents, retains.volumes]
  refine ⟨engages.named, engages.found, ?_, retains.backdrop.trans secured.backdrop, ?_,
    sameSpec.trans copySpec⟩
  · rw [sameVolumes]
    exact secured.isShielded
  · rw [sameMetadata, secured.isGuarded]

/-- Attaching an attachment without the finalizer that ends with the finalizer on it has put it on.
Work that stops before that leaves the attachment without it. -/
theorem attach_putsOn (ready : reconciler.ready = true)
    (atHand : AtHand reconciler before attachment) (notDeleting : attachment.isDeleting = false)
    (lacks : attachment.metadata.hasFinalizer reconciler.finalizer = false)
    (ends : AttachEnds circumstances reconciler attachment before result after)
    (foundKept : Table.find? after.attachments attachment.name = some kept)
    (carries : kept.metadata.hasFinalizer reconciler.finalizer = true) :
    ∃ volumeName volume, PutsOn reconciler attachment volumeName volume before after kept := by
  have unfinished : Shelf.isFinished attachment = false := by
    have notDeleting : attachment.metadata.isDeleting = false := notDeleting
    simp [Shelf.isFinished, Versioned.metadata, notDeleting]
  have stopsEarly {site : Site} (retains : site.Retains attachment after) : False := by
    have same : kept.metadata.hasFinalizer reconciler.finalizer =
        attachment.metadata.hasFinalizer reconciler.finalizer :=
      hasFinalizer_eq_of_metadata (retains.kept kept foundKept).1
    exact absurd (carries.symm.trans (same.trans lacks)) (by simp)
  cases ends with
  | noVolume _ records | missing _ _ records | deleting _ _ _ _ records =>
      exact (stopsEarly (atHand.retains_of_records unfinished records)).elim
  | foreign => exact (stopsEarly atHand.retains).elim
  | unshielded engages shield records =>
      have engaged := engages.engaged [] ready atHand notDeleting
      rcases engaged.protectVolume_cases engages.found shield with ⟨_, _, rfl, _⟩ | ⟨same, _⟩
      · exact (stopsEarly (atHand.retains_of_records unfinished records)).elim
      · contradiction
  | unguarded engages shield guard records =>
      have engaged := engages.engaged [] ready atHand notDeleting
      rcases engaged.protectVolume_cases engages.found shield with
        ⟨_, same, _⟩ | ⟨_, engaged, _, _⟩
      · contradiction
      · rcases engaged.protectAttachment_cases guard with ⟨_, _, rfl, _⟩ | ⟨_, same, _⟩
        · exact (stopsEarly (engaged.toAtHand.retains_of_records unfinished records)).elim
        · contradiction
  | @attached volumeName volume _ _ _ _ _ engages shield guard _ clear =>
      have engaged := engages.engaged [] ready atHand notDeleting
      have secured := engaged.secures engages.found shield guard
      have retains := secured.engaged.toAtHand.retains_of_clear secured.engaged.not_isFinished clear
      exact ⟨volumeName, volume, secured.putsOn engages retains foundKept⟩
  | @published volumeName volume _ _ _ _ _ engages shield guard _ publish =>
      have engaged := engages.engaged [] ready atHand notDeleting
      have secured := engaged.secures engages.found shield guard
      have retains :=
        secured.engaged.toAtHand.retains_of_publish secured.engaged.not_isFinished publish
      exact ⟨volumeName, volume, secured.putsOn engages retains foundKept⟩

/-- Whether all is found that the driver is told when the volume of an attachment is detached: its
name of the node, for which the one that the attachment keeps will do, its name of the volume, which
is given by its source, and the secrets for it. -/
structure IsDetachable (reconciler : Reconciler) (backdrop : Backdrop) (volume : PersistentVolume)
    (attachment : VolumeAttachment) : Prop where
  node : ∃ nodeId,
    backdrop.nodeId reconciler attachment.spec.nodeName attachment.keptNodeId? = .ok nodeId
  source : ∃ source, volume.csiSource? = some source
  secrets : ∃ secrets, backdrop.secrets volume = .ok secrets

theorem Backdrop.nodeId_of_known {backdrop : Backdrop} {nodeName id : String}
    (known : backdrop.nodeId reconciler nodeName none = .ok id) (kept : Option String) :
    backdrop.nodeId reconciler nodeName kept = .ok id := by
  unfold nodeId at known ⊢
  split at known
  next => exact known
  next =>
      dsimp only at known ⊢
      split at known
      next annotated =>
          cases known
          rw [annotated]
      next => contradiction
      next => contradiction

/-- The name of the node that is kept with the finalizer is one that is known without it. -/
theorem PutsOn.isDetachable_iff
    (putsOn : PutsOn reconciler attachment volumeName volume before after kept)
    (lacks : attachment.metadata.hasFinalizer reconciler.finalizer = false) :
    IsDetachable reconciler before.backdrop volume kept ↔
      IsDetachable reconciler before.backdrop volume attachment := by
  have sameNode : (∃ nodeId, before.backdrop.nodeId reconciler kept.spec.nodeName
      kept.keptNodeId? = .ok nodeId) ↔
      ∃ nodeId, before.backdrop.nodeId reconciler attachment.spec.nodeName
        attachment.keptNodeId? = .ok nodeId := by
    rw [putsOn.spec]
    rcases kept_of_guarded putsOn.metadata with ⟨carries, _⟩ | ⟨_, isKept⟩
    · exact absurd (lacks.symm.trans carries) Bool.false_ne_true
    · cases known : before.backdrop.nodeId reconciler attachment.spec.nodeName none with
      | ok id => simp [Backdrop.nodeId_of_known known]
      | error failure =>
          rw [known] at isKept
          rw [isKept]
  constructor
  · exact fun isDetachable =>
      ⟨sameNode.mp isDetachable.node, isDetachable.source, isDetachable.secrets⟩
  · exact fun isDetachable =>
      ⟨sameNode.mpr isDetachable.node, isDetachable.source, isDetachable.secrets⟩

theorem detachProspect_eq_true_iff {backdrop : Backdrop}
    {volumes : String → Option PersistentVolume}
    (carries : attachment.metadata.hasFinalizer reconciler.finalizer = true)
    (named : attachment.volumeName? = some volumeName)
    (found : volumes volumeName = some volume) :
    reconciler.detachProspect backdrop volumes attachment = .ok true ↔
      IsDetachable reconciler backdrop volume attachment := by
  cases known : backdrop.nodeId reconciler attachment.spec.nodeName
      (attachment.metadata.annotation? attachedNodeIdAnnotation) with
  | error failure =>
      rw [detachProspect_of_unknown carries known]
      constructor
      · intro same
        contradiction
      · intro isDetachable
        rcases isDetachable.node with ⟨nodeId, isNodeId⟩
        cases known.symm.trans isNodeId
  | ok nodeId =>
      rw [detachProspect_of_named carries known named rfl, found]
      constructor
      · intro isProspect
        cases isInputs : backdrop.detachInputs volumeName (some volume) with
        | error failure =>
            rw [isInputs] at isProspect
            contradiction
        | ok inputs =>
            rcases backdrop.detachInputs_eq_ok_iff.mp isInputs with
              ⟨_, source, same, isSource, _, isSecrets⟩
            cases same
            exact ⟨⟨nodeId, known⟩, ⟨source, isSource⟩, ⟨inputs.2, isSecrets⟩⟩
      · rintro ⟨_, ⟨source, isSource⟩, ⟨secrets, isSecrets⟩⟩
        rw [backdrop.detachInputs_eq_ok_iff.mpr ⟨volume, source, rfl, isSource, rfl, isSecrets⟩]
        rfl

theorem Site.carries_eq_contents {finalizer name : String} :
    site.carries finalizer name = (site.contents.attachments name).any
      fun attachment => attachment.metadata.hasFinalizer finalizer := by
  have contents : site.contents.attachments name =
      (Table.find? site.attachments name).map VolumeAttachment.bare := rfl
  rw [contents]
  unfold Site.carries
  cases Table.find? site.attachments name <;> rfl

/-- Undisturbed detaching takes the finalizer off exactly if nothing makes it fail. -/
theorem detach_carries_iff (ready : reconciler.ready = true)
    (atHand : AtHand reconciler site attachment) (deleting : attachment.isDeleting = true)
    (carries : attachment.metadata.hasFinalizer reconciler.finalizer = true)
    (isSmooth : circumstances.IsSmooth)
    (ends : DetachEnds circumstances reconciler attachment site result after) :
    after.carries reconciler.finalizer attachment.name = false ↔
      reconciler.detachProspect site.backdrop site.contents.volumes attachment.bare = .ok true := by
  have leads : Leads reconciler [] circumstances attachment.name
      (reconciler.target site.backdrop [] site.contents attachment.bare) result after :=
    detach_leads ready atHand deleting ends
  have reached := congrArg Prod.fst (leads.reached (.inl isSmooth))
  have deleting : attachment.bare.isDeleting = true := deleting
  have carries : attachment.bare.metadata.hasFinalizer reconciler.finalizer = true := carries
  have sameName : attachment.bare.name = attachment.name := rfl
  simp only [target, atHand.addressee_bare, ready, deleting, Bool.not_true, Bool.false_eq_true,
    if_false, if_true, detachTarget] at reached
  rw [Site.carries_eq_contents]
  cases prospect : reconciler.detachProspect site.backdrop site.contents.volumes
      attachment.bare with
  | error failure =>
      rw [prospect] at reached
      rw [reached]
      simp [Contents.set, sameName, failed, VolumeAttachment.withStatus, carries]
  | ok detaches =>
      rw [prospect] at reached
      cases detaches with
      | false =>
          rw [reached]
          simp [Site.contents_attachments atHand.stored, carries]
      | true =>
          rw [reached]
          dsimp only
          split
          · simp [Contents.set, sameName]
          · simp [Contents.set, sameName, released]

/-- The attachment in another version, in which its deletion has been asked for. -/
def leaving (attachment : VolumeAttachment) (time : Timestamp) (version : Option String) :
    VolumeAttachment :=
  { attachment with
    metadata :=
      { attachment.metadata with
        deletionTimestamp := some time
        resourceVersion := version } }

/-- What work with a copy has put the finalizer on is the copy itself. -/
theorem sync_putsOn (isNamed : before.IsNamed) (isCopy : before.IsCopy attachment)
    (addressee : reconciler.isAddressee attachment = true)
    (notDeleting : attachment.isDeleting = false)
    (lacked : before.carries reconciler.finalizer attachment.name = false)
    (ends : (reconciler.syncAttachment attachment).Ends circumstances before result after)
    (foundKept : Table.find? after.attachments attachment.name = some kept)
    (carries : kept.metadata.hasFinalizer reconciler.finalizer = true) :
    reconciler.ready = true ∧ attachment.metadata.hasFinalizer reconciler.finalizer = false ∧
      ∃ volumeName volume, PutsOn reconciler attachment volumeName volume before after kept := by
  have stored : Table.find? before.attachments attachment.name = some attachment := by
    rcases isCopy.sync isNamed ends with same | ⟨stored, _⟩
    · rw [same] at foundKept
      simp [Site.carries, foundKept, carries] at lacked
    · exact stored
  have lacks : attachment.metadata.hasFinalizer reconciler.finalizer = false := by
    simpa [Site.carries, stored] using lacked
  have changed {site : Site} (same : Table.find? site.attachments attachment.name = some attachment)
      (found : Table.find? site.attachments attachment.name = some kept) : False := by
    cases same.symm.trans found
    exact absurd (lacks.symm.trans carries) Bool.false_ne_true
  cases syncAttachment_ends ends with
  | foreign | notReady => exact (changed stored foundKept).elim
  | attach _ ready _ ends =>
      exact ⟨ready, lacks, attach_putsOn ready ⟨isNamed, stored, addressee⟩ notDeleting lacks ends
        foundKept carries⟩
  | detach _ _ deleting _ => exact absurd (notDeleting.symm.trans deleting) Bool.false_ne_true

/-- However the work has ended that has put the finalizer on an attachment: once its deletion has
been asked for, undisturbed work on it takes the finalizer off if and only if all that the driver is
told for that was found before, where the name that the attachment kept before will do for the
node. -/
theorem finalizer_returned_iff {again : Circumstances} {later : Site} {time : Timestamp}
    {version : Option String} (isNamed : site.IsNamed) (isCopy : site.IsCopy attachment)
    (addressee : reconciler.isAddressee attachment = true)
    (notDeleting : attachment.isDeleting = false)
    (lacked : site.carries reconciler.finalizer attachment.name = false)
    (first : (reconciler.syncAttachment attachment).Ends circumstances site result middle)
    (foundKept : Table.find? middle.attachments attachment.name = some kept)
    (carries : kept.metadata.hasFinalizer reconciler.finalizer = true)
    (asked : middle.Sets attachment.name (some (leaving kept time version)) later)
    (isSmooth : again.IsSmooth) :
    ∃ volumeName volume, attachment.volumeName? = some volumeName ∧
      Table.find? site.volumes volumeName = some volume ∧
      (∃ ended after,
        (reconciler.syncAttachment (leaving kept time version)).Ends (.smooth []) later ended
          after) ∧
      ∀ ended after,
        (reconciler.syncAttachment (leaving kept time version)).Ends again later ended after →
        (after.carries reconciler.finalizer attachment.name = false ↔
          IsDetachable reconciler site.backdrop volume attachment) := by
  rcases sync_putsOn isNamed isCopy addressee notDeleting lacked first foundKept carries with
    ⟨ready, lacks, volumeName, volume, putsOn⟩
  refine ⟨volumeName, volume, putsOn.named, putsOn.found, ?_, ?_⟩
  · exact Program.exists_ends (Site.exists_answered (Circumstances.smooth_replies [])) _ later
  · intro ended after ends
    have middleNamed : middle.IsNamed := (syncAttachment_keeps attachment).isNamed first isNamed
    have keptName : kept.name = attachment.name := middleNamed.attachments foundKept
    have leavingName : (leaving kept time version).name = attachment.name := keptName
    have isAddressee : reconciler.isAddressee (leaving kept time version) = true :=
      (isAddressee_eq_of_spec_eq putsOn.spec).trans addressee
    have laterNamed : later.IsNamed := by
      refine asked.isNamed middleNamed ?_
      intro other same
      cases same
      exact leavingName
    have atHand : AtHand reconciler later (leaving kept time version) :=
      ⟨laterNamed, leavingName ▸ asked.found, isAddressee⟩
    have found : later.contents.volumes volumeName = some (reconciler.shielded volume.bare) := by
      rw [asked.contents]
      exact putsOn.isShielded
    have named : (leaving kept time version).volumeName? = some volumeName :=
      (volumeName?_eq_of_spec_eq putsOn.spec).trans putsOn.named
    have sameVolume : IsDetachable reconciler later.backdrop (reconciler.shielded volume.bare)
        (leaving kept time version).bare ↔ IsDetachable reconciler site.backdrop volume kept := by
      rw [asked.backdrop, putsOn.backdrop]
      constructor
      · exact fun isDetachable =>
          ⟨isDetachable.node, isDetachable.source, isDetachable.secrets⟩
      · exact fun isDetachable =>
          ⟨isDetachable.node, isDetachable.source, isDetachable.secrets⟩
    cases syncAttachment_ends ends with
    | foreign foreign => exact absurd (foreign.symm.trans isAddressee) Bool.false_ne_true
    | notReady _ notReady => exact absurd (notReady.symm.trans ready) Bool.false_ne_true
    | attach _ _ notDeleting _ => contradiction
    | detach _ _ deleting ends =>
        rw [← putsOn.isDetachable_iff lacks, ← sameVolume, ← leavingName,
          detach_carries_iff ready atHand deleting carries isSmooth ends]
        exact detachProspect_eq_true_iff carries named found

open Simulation

/-- The attachment that is stored in a small world. -/
def smallKept (world : World) : VolumeAttachment :=
  (Table.find? world.store.attachments.objects "va-1").getD smallAttachment

/-- The attachment of a small world once its deletion has been asked for. -/
def smallLeaving (world : World) : VolumeAttachment :=
  leaving (smallKept world) ⟨1717200000, 0⟩ (some "9")

/-- A small world after the deletion of its attachment has been asked for. -/
def departing (world : World) : World :=
  { world with
    store :=
      { world.store with
        attachments :=
          { world.store.attachments with
            objects :=
              Table.insert world.store.attachments.objects "va-1" (smallLeaving world) } } }

theorem departing_sets (world : World) :
    world.site.Sets "va-1" (some (smallLeaving world)) (departing world).site where
  found := (Table.find?_insert _ _ _ _).trans (if_pos rfl)
  others _ different := (Table.find?_insert _ _ _ _).trans (if_neg different)
  backdrop := rfl
  calls := rfl
  volumes := rfl

/-- A small world after the work on the deletion of its attachment. -/
def departed (world : World) : World :=
  ((departing world).perform (smallReconciler.syncAttachment (smallLeaving world))).2

theorem finalizer_returned_undisturbedRun :
    (smallKept undisturbedRun.2).metadata.hasFinalizer smallReconciler.finalizer = true ∧
      (departed undisturbedRun.2).site.carries smallReconciler.finalizer "va-1" = false := by
  have isNamed : (smallCluster {}).world.site.IsNamed :=
    ⟨(smallCluster_isNamed {}).attachments, (smallCluster_isNamed {}).volumes⟩
  have isCopy : (smallCluster {}).world.site.IsCopy smallAttachment := by
    intro stored found _
    cases found
    rfl
  have first := World.perform_ends_arbitrary (smallReconciler.syncAttachment smallAttachment)
    (smallCluster {}).world
  have found : Table.find? undisturbedRun.2.site.attachments "va-1" =
      some (smallKept undisturbedRun.2) := by decide +kernel
  have carries : (smallKept undisturbedRun.2).metadata.hasFinalizer smallReconciler.finalizer =
      true := by decide +kernel
  have isSmooth : (departing undisturbedRun.2).IsSmooth := ⟨by decide +kernel, by rfl⟩
  rcases finalizer_returned_iff isNamed isCopy (by decide) rfl (by decide +kernel) first found
    carries (departing_sets undisturbedRun.2) (Circumstances.smooth_isSmooth []) with
    ⟨volumeName, volume, named, foundVolume, _, returned⟩
  cases named
  cases foundVolume
  have isDetachable : IsDetachable smallReconciler (smallCluster {}).world.site.backdrop smallVolume
      smallAttachment := ⟨⟨"node-id-1", by rfl⟩, ⟨_, rfl⟩, ⟨[], rfl⟩⟩
  exact ⟨carries, (returned _ _ (World.perform_ends_smooth _ isSmooth)).mpr isDetachable⟩

/-- A small cluster in which the node is not known. -/
def nodelessWorld : World :=
  let world := (smallCluster {}).world
  { world with store := { world.store with csiNodes := [] } }

def nodelessRun : Except Failure Unit × World :=
  nodelessWorld.perform (smallReconciler.syncAttachment smallAttachment)

/-- An attachment for a node that is not known is given the finalizer, and undisturbed work on its
deletion does not take it off. -/
theorem exists_finalizer_not_returned :
    ∃ (reconciler : Reconciler) (site middle later after : Site)
      (attachment kept : VolumeAttachment) (result ended : Except Failure Unit) (time : Timestamp)
      (version : Option String),
      site.IsNamed ∧ Table.find? site.attachments attachment.name = some attachment ∧
      reconciler.isAddressee attachment = true ∧ attachment.isDeleting = false ∧
      attachment.metadata.hasFinalizer reconciler.finalizer = false ∧
      (reconciler.syncAttachment attachment).Ends .arbitrary site result middle ∧
      Table.find? middle.attachments attachment.name = some kept ∧
      kept.metadata.hasFinalizer reconciler.finalizer = true ∧
      middle.Sets attachment.name (some (leaving kept time version)) later ∧
      (reconciler.syncAttachment (leaving kept time version)).Ends (.smooth []) later ended after ∧
      after.carries reconciler.finalizer attachment.name = true := by
  have isNamed : nodelessWorld.site.IsNamed :=
    ⟨(smallCluster_isNamed {}).attachments, (smallCluster_isNamed {}).volumes⟩
  have first := World.perform_ends_arbitrary (smallReconciler.syncAttachment smallAttachment)
    nodelessWorld
  have isSmooth : (departing nodelessRun.2).IsSmooth := ⟨by decide +kernel, by rfl⟩
  have second := World.perform_ends_smooth
    (smallReconciler.syncAttachment (smallLeaving nodelessRun.2)) isSmooth
  refine ⟨smallReconciler, _, _, _, _, smallAttachment, smallKept nodelessRun.2, _, _, _, _,
    isNamed, rfl, by decide, rfl, rfl, first, ?_, ?_, departing_sets nodelessRun.2, second, ?_⟩
  · decide +kernel
  · decide +kernel
  · decide +kernel

end VolumeAttacher.Reconcile
