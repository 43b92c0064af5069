import VolumeAttacher.Proofs.Program.Requests
import VolumeAttacher.Proofs.Reconcile.Recovery
import VolumeAttacher.Reconcile.Handler

/-!
# Work that is repeated

Work on an attachment that has succeeded leaves nothing to do. It succeeds at seven places, and what
is stored by then is of one of four sorts, which `Settled` lists. The work on a settled attachment
only reads: what it does can be read off the site, by `Action.reading?`, and so it is all that it
can do in any circumstances.
-/

namespace VolumeAttacher.Reconcile

open Reconciler

/-- Whether a request is neither a write nor a call to the driver. -/
def Request.isPassive : Request → Bool
  | writeAttachment _ _ | writeStatus _ _ | writeVolume _ _ | call _ => false
  | _ => true

/-- What is read in a site. -/
def Site.read? (site : Site) : (request : Request) → Option request.Answer
  | .csiNode name => some (site.backdrop.csiNode name)
  | .node name => some (site.backdrop.node name)
  | .volume name => some (Table.find? site.volumes name)
  | .attachment name => some (Table.find? site.attachments name)
  | .attachments => some (Table.values site.attachments)
  | .volumes => some (Table.values site.volumes)
  | .secret space name => some (site.backdrop.secret space name)
  | .enqueue _ _ | .retry _ _ | .forget _ _ => some ()
  | .writeAttachment _ _ | .writeStatus _ _ | .writeVolume _ _ | .call _ | .currentTime => none

theorem Site.isPassive_of_read? {site : Site} {request : Request}
    (read : (site.read? request).isSome) : request.isPassive := by
  cases request <;> first | rfl | contradiction

theorem Site.isFixed_read? (circumstances : Circumstances) (site : Site) :
    Program.IsFixed (Site.Answered circumstances) site.read? site := by
  intro request answer isRead other after
  cases request with
  | csiNode | node | volume | attachment | attachments | volumes | secret =>
      cases isRead
      exact Iff.rfl
  | enqueue | retry | forget =>
      exact ⟨fun same => ⟨rfl, same⟩, fun same => same.2⟩
  | writeAttachment | writeStatus | writeVolume | call | currentTime => contradiction

namespace Action

variable {α β : Type} {site : Site}

/-- How an action that only reads ends in a site; none if it does anything else. -/
def reading? (site : Site) (action : Action α) : Option (Except Failure α) :=
  action.run.result? site.read?

theorem reading?_bind {action : Action α} {next : α → Action β} {value : α}
    (reads : action.reading? site = some (.ok value)) :
    (action >>= next).reading? site = (next value).reading? site :=
  Program.result?_run_bind reads

theorem reading?_outcome {action : Action α} {result : Except Failure α}
    (reads : action.reading? site = some result) :
    action.outcome.reading? site = some (.ok result) := by
  change Program.result? _ (Program.bind action.run _) = _
  rw [Program.result?_bind, show action.run.result? site.read? = _ from reads]
  rfl

theorem reading?_recording {operation : Operation} {attachment : VolumeAttachment}
    {action : Action α} {value : α} (reads : action.reading? site = some (.ok value)) :
    (recording operation attachment action).reading? site = some (.ok value) :=
  reading?_bind (reading?_outcome reads)

theorem reading?_scheduling {queue : QueueName} {key : String} {work : Action Unit}
    (reads : work.reading? site = some (.ok ())) :
    (scheduling queue key work).reading? site = some (.ok ()) :=
  reading?_bind (reading?_outcome reads)

end Action

/-- The name of a node is read, whatever it is. -/
theorem nodeId_reading? (reconciler : Reconciler) (nodeName : String) (kept : Option String)
    (site : Site) :
    ∃ nodeId, (reconciler.nodeId nodeName kept).reading? site = some (.ok nodeId) := by
  have registered : (Action.csiNode? nodeName).reading? site =
      some (.ok (site.backdrop.csiNode nodeName)) := rfl
  have found : (Action.node? nodeName).reading? site =
      some (.ok (site.backdrop.node nodeName)) := rfl
  unfold Reconciler.nodeId
  rw [Action.reading?_bind registered]
  split
  · exact ⟨_, rfl⟩
  · rw [Action.reading?_bind found]
    dsimp only
    split <;> exact ⟨_, rfl⟩

/-- Whether there is nothing to do about an attachment: it is not the driver's, or its volume is
not; or it is attached, with both finalizers in place and no error; or it is detached. -/
inductive Settled (reconciler : Reconciler) (site : Site) (attachment : VolumeAttachment) : Prop
  | foreign (foreign : reconciler.isAddressee attachment = false) :
      Settled reconciler site attachment
  | passedOver {volumeName : String} {volume : PersistentVolume}
      (ready : reconciler.ready = true) (notDeleting : attachment.isDeleting = false)
      (named : attachment.volumeName? = some volumeName)
      (found : Table.find? site.volumes volumeName = some volume)
      (foreign : volume.isOwnedBy reconciler.driver = false) :
      Settled reconciler site attachment
  | attached {volumeName : String} {volume : PersistentVolume}
      (ready : reconciler.ready = true) (notDeleting : attachment.isDeleting = false)
      (engages : Engages reconciler attachment volumeName volume site)
      (shielded : volume.metadata.hasFinalizer reconciler.finalizer = true)
      (carries : attachment.metadata.hasFinalizer reconciler.finalizer = true)
      (attached : attachment.isAttached = true)
      (errorless : (attachment.status.any fun status => status.attachError.isSome) = false) :
      Settled reconciler site attachment
  | detached (ready : reconciler.ready = true) (deleting : attachment.isDeleting = true)
      (lacks : attachment.metadata.hasFinalizer reconciler.finalizer = false) :
      Settled reconciler site attachment

variable {reconciler : Reconciler} {circumstances : Circumstances} {before site after : Site}
  {attachment kept : VolumeAttachment}

theorem attach_reading?_passedOver {volumeName : String} {volume : PersistentVolume}
    (named : attachment.volumeName? = some volumeName)
    (found : Table.find? site.volumes volumeName = some volume)
    (foreign : volume.isOwnedBy reconciler.driver = false) :
    (reconciler.attach attachment).reading? site = some (.ok ()) := by
  have looked : (Action.volume? volumeName).reading? site = some (.ok (some volume)) := by
    rw [← found]
    rfl
  unfold attach
  simp only [named]
  rw [Action.reading?_bind looked]
  simp [foreign]
  rfl

theorem attach_reading?_attached {volumeName : String} {volume : PersistentVolume}
    (engages : Engages reconciler attachment volumeName volume site)
    (shielded : volume.metadata.hasFinalizer reconciler.finalizer = true)
    (carries : attachment.metadata.hasFinalizer reconciler.finalizer = true)
    (attached : attachment.isAttached = true)
    (errorless : (attachment.status.any fun status => status.attachError.isSome) = false) :
    (reconciler.attach attachment).reading? site = some (.ok ()) := by
  have looked : (Action.volume? volumeName).reading? site = some (.ok (some volume)) := by
    rw [← engages.found]
    rfl
  have shields : (reconciler.protectVolume volume).reading? site = some (.ok ()) := by
    unfold protectVolume
    rw [shielded]
    rfl
  have guards (nodeId : Except Failure String) :
      (reconciler.protectAttachment attachment nodeId).reading? site = some (.ok attachment) := by
    unfold protectAttachment
    rw [if_pos carries]
    rfl
  have clears : (clearAttachError attachment).reading? site = some (.ok ()) := by
    unfold clearAttachError
    rw [errorless]
    rfl
  rcases nodeId_reading? reconciler attachment.spec.nodeName none site with ⟨nodeId, looks⟩
  unfold attach
  simp only [engages.named]
  rw [Action.reading?_bind looked]
  simp only [engages.owned, engages.notDeleting, Bool.not_true, Bool.false_eq_true, if_false]
  rw [Action.reading?_bind (Action.reading?_recording shields), Action.reading?_bind looks,
    Action.reading?_bind (Action.reading?_recording (guards nodeId)), if_pos attached]
  exact clears

/-- The work on a settled attachment only reads. -/
theorem Settled.reading? (settled : Settled reconciler site attachment) :
    (reconciler.syncAttachment attachment).reading? site = some (.ok ()) := by
  have checks (ready : reconciler.ready = true) :
      (requireQueues reconciler.ready).reading? site = some (.ok ()) := by
    rw [ready]
    rfl
  unfold syncAttachment
  split
  next addressee =>
      cases settled with
      | foreign foreign => exact absurd addressee (ne_true_of_eq_false foreign)
      | passedOver ready notDeleting named found foreign =>
          rw [Action.reading?_bind (checks ready), notDeleting]
          exact Action.reading?_scheduling (attach_reading?_passedOver named found foreign)
      | attached ready notDeleting engages shielded carries attached errorless =>
          rw [Action.reading?_bind (checks ready), notDeleting]
          exact Action.reading?_scheduling
            (attach_reading?_attached engages shielded carries attached errorless)
      | detached ready deleting lacks =>
          have passes : (reconciler.detach attachment).reading? site = some (.ok ()) := by
            unfold detach
            rw [lacks]
            rfl
          rw [Action.reading?_bind (checks ready), deleting]
          exact Action.reading?_scheduling passes
  next => rfl

namespace Site.Answered

variable {old new written : VolumeAttachment}

/-- The attachment that is stored after a write of its status has succeeded. -/
theorem stored_of_writeStatus
    (answered : Site.Answered circumstances (.writeStatus old new) before
      (.ok written : Except Failure VolumeAttachment) after)
    (stored : Table.find? before.attachments old.name = some old)
    (found : Table.find? after.attachments old.name = some kept) :
    ∃ version, kept = Versioned.stamped { old with status := new.status } version := by
  rcases answered with ⟨attachments, rfl, writes, grants⟩
  rcases writes.cases grants stored with ⟨_, same, _⟩ | ⟨version, _, stores⟩
  · contradiction
  · rcases stores.eq_or_find? found with ⟨_, same⟩ | ⟨different, _⟩
    · exact ⟨version, same⟩
    · contradiction

/-- The attachment that is stored after a write without its status has succeeded. -/
theorem stored_of_writeAttachment
    (answered : Site.Answered circumstances (.writeAttachment old new) before
      (.ok written : Except Failure VolumeAttachment) after)
    (stored : Table.find? before.attachments old.name = some old)
    (found : Table.find? after.attachments old.name = some kept) :
    ∃ version, kept = Versioned.stamped { new with status := old.status } version := by
  rcases answered with ⟨attachments, rfl, writes, _, grants⟩
  rcases writes.cases grants stored with ⟨_, same, _⟩ | ⟨version, _, stores⟩
  · contradiction
  · rcases stores.eq_or_find? found with ⟨_, same⟩ | ⟨different, _⟩
    · exact ⟨version, same⟩
    · contradiction

end Site.Answered

/-- Whether an attachment and its volume carry the finalizers, and attaching goes on. -/
structure IsSecured (reconciler : Reconciler) (volumeName : String) (site : Site)
    (attachment : VolumeAttachment) : Prop where
  ready : reconciler.ready = true
  stored : Table.find? site.attachments attachment.name = some attachment
  notDeleting : attachment.isDeleting = false
  engages : ∃ volume, Engages reconciler attachment volumeName volume site ∧
    volume.metadata.hasFinalizer reconciler.finalizer = true
  carries : attachment.metadata.hasFinalizer reconciler.finalizer = true

namespace IsSecured

variable {volumeName : String}

theorem settled (secured : IsSecured reconciler volumeName site attachment)
    (attached : attachment.isAttached = true)
    (errorless : (attachment.status.any fun status => status.attachError.isSome) = false) :
    Settled reconciler site attachment := by
  rcases secured.engages with ⟨volume, engages, shielded⟩
  exact .attached secured.ready secured.notDeleting engages shielded secured.carries attached
    errorless

/-- Writing a status that says that the attachment is attached settles it. -/
theorem settled_of_writeStatus {new written : VolumeAttachment}
    (secured : IsSecured reconciler volumeName site attachment)
    (answered : Site.Answered circumstances (.writeStatus attachment new) site
      (.ok written : Except Failure VolumeAttachment) after)
    (found : Table.find? after.attachments attachment.name = some kept)
    (attached : new.isAttached = true)
    (errorless : (new.status.any fun status => status.attachError.isSome) = false) :
    Settled reconciler after kept := by
  rcases answered.stored_of_writeStatus secured.stored found with ⟨version, rfl⟩
  rcases answered with ⟨attachments, rfl, _⟩
  rcases secured.engages with ⟨volume, engages, shielded⟩
  exact .attached secured.ready secured.notDeleting
    ⟨engages.named, engages.found, engages.owned, engages.notDeleting⟩ shielded secured.carries
    attached errorless

theorem settled_of_clear (secured : IsSecured reconciler volumeName site attachment)
    (attached : attachment.isAttached = true)
    (clear : (clearAttachError attachment).Ends circumstances site (.ok ()) after)
    (found : Table.find? after.attachments attachment.name = some kept) :
    Settled reconciler after kept := by
  unfold clearAttachError at clear
  split at clear
  next =>
      rcases (Action.ends_discard (Action.writeStatus attachment _)).mp clear with
        ⟨answer, writes, isOk⟩
      cases answer with
      | error failure => contradiction
      | ok written =>
          have answered := (Action.ends_writeStatus _ _).mp writes
          cases status : attachment.status with
          | none => simp [VolumeAttachment.isAttached, status] at attached
          | some current =>
              have isAttached : current.attached = true := by
                simpa [VolumeAttachment.isAttached, status] using attached
              apply secured.settled_of_writeStatus answered found
              · simp [VolumeAttachment.mapStatus, VolumeAttachment.isAttached, status, isAttached]
              · simp [VolumeAttachment.mapStatus, status]
  next errorless =>
      rcases clear with ⟨_, rfl⟩
      cases secured.stored.symm.trans found
      exact secured.settled attached (by simpa using errorless)

theorem settled_of_publish {volume : PersistentVolume} {nodeId : Except Failure String}
    (secured : IsSecured reconciler volumeName site attachment)
    (publish : PublishEnds circumstances reconciler attachment volume nodeId site (.ok ()) after)
    (found : Table.find? after.attachments attachment.name = some kept) :
    Settled reconciler after kept := by
  generalize isOk : (.ok () : Except Failure Unit) = result at publish
  cases publish with
  | unsent | failed => contradiction
  | @confirmed request response written _ sent reply confirms =>
      cases written with
      | error failure => contradiction
      | ok stored =>
          have called : IsSecured reconciler volumeName (site.called (publishCall request))
              attachment := by
            rcases secured.engages with ⟨volume, engages, shielded⟩
            exact ⟨secured.ready, secured.stored, secured.notDeleting,
              ⟨volume, ⟨engages.named, engages.found, engages.owned, engages.notDeleting⟩,
                shielded⟩, secured.carries⟩
          exact called.settled_of_writeStatus confirms found rfl rfl

end IsSecured

/-- Once both finalizers have been put on without failure, attaching goes on. -/
theorem Engages.isSecured {volumeName : String} {volume : PersistentVolume}
    {copy : VolumeAttachment} {shielded guarded : Site}
    (engages : Engages reconciler attachment volumeName volume before)
    (ready : reconciler.ready = true) (atHand : AtHand reconciler before attachment)
    (notDeleting : attachment.isDeleting = false)
    (shield : (reconciler.protectVolume volume).Ends circumstances before (.ok ()) shielded)
    (guard : (reconciler.protectAttachment attachment
      (shielded.backdrop.nodeId reconciler attachment.spec.nodeName none)).Ends circumstances
        shielded (.ok copy) guarded) :
    IsSecured reconciler volumeName guarded copy ∧ copy.name = attachment.name := by
  have engaged := engages.engaged [] ready atHand notDeleting
  have secured := engaged.secures engages.found shield guard
  rcases Option.map_eq_some_iff.mp secured.isShielded with ⟨stored, found, isShielded⟩
  have owned : stored.bare.isOwnedBy reconciler.driver = true := by
    rw [isShielded, isOwnedBy_shielded]
    exact engages.owned
  have notDeleted : stored.bare.metadata.isDeleting = false := by
    rw [isShielded]
    exact (isDeleting_shielded _ _).trans engages.notDeleting
  have carries : stored.bare.metadata.hasFinalizer reconciler.finalizer = true := by
    rw [isShielded]
    exact Metadata.hasFinalizer_addFinalizer _ _
  have engagesCopy : Engages reconciler copy volumeName stored guarded :=
    ⟨secured.engaged.named, found, owned, notDeleted⟩
  exact ⟨⟨ready, secured.engaged.stored, secured.engaged.notDeleting,
    ⟨stored, engagesCopy, carries⟩, secured.carries⟩, secured.sameName⟩

theorem attach_settled (ready : reconciler.ready = true)
    (atHand : AtHand reconciler before attachment) (notDeleting : attachment.isDeleting = false)
    (ends : AttachEnds circumstances reconciler attachment before (.ok ()) after)
    (found : Table.find? after.attachments attachment.name = some kept) :
    Settled reconciler after kept := by
  generalize isOk : (.ok () : Except Failure Unit) = result at ends
  cases ends with
  | noVolume | missing | deleting | unshielded | unguarded => contradiction
  | foreign named foundVolume foreign =>
      cases atHand.stored.symm.trans found
      exact .passedOver ready notDeleting named foundVolume foreign
  | attached engages shield guard attached clear =>
      rcases engages.isSecured ready atHand notDeleting shield guard with ⟨secured, sameName⟩
      exact secured.settled_of_clear attached (isOk ▸ clear) (sameName ▸ found)
  | published engages shield guard notAttached publish =>
      rcases engages.isSecured ready atHand notDeleting shield guard with ⟨secured, sameName⟩
      exact secured.settled_of_publish (isOk ▸ publish) (sameName ▸ found)

theorem mark_settled (ready : reconciler.ready = true)
    (stored : Table.find? site.attachments attachment.name = some attachment)
    (deleting : attachment.isDeleting = true)
    (carries : attachment.metadata.hasFinalizer reconciler.finalizer = true)
    (ends : MarkEnds circumstances reconciler attachment site (.ok ()) after)
    (found : Table.find? after.attachments attachment.name = some kept) :
    Settled reconciler after kept := by
  generalize isOk : (.ok () : Except Failure Unit) = result at ends
  cases ends with
  | uncleared => contradiction
  | @released cleared middle _ written clears releases =>
      cases written with
      | error failure => contradiction
      | ok released =>
          have atHand : Table.find? middle.attachments attachment.name = some cleared ∧
              cleared.metadata.isDeleting = true ∧ cleared.name = attachment.name := by
            rcases clears with ⟨_, clears⟩ | ⟨_, rfl, rfl⟩
            · rcases clears.status_cases stored (Shelf.not_isFinished carries) with
                ⟨_, same, _⟩ | ⟨_, same, sets, version, isWritten⟩
              · contradiction
              · cases same
                refine ⟨sets.found, ?_, ?_⟩
                · rw [isWritten]
                  exact deleting
                · rw [isWritten]
                  rfl
            · exact ⟨stored, deleting, rfl⟩
          rcases atHand with ⟨storedCleared, deletingCleared, sameName⟩
          rw [← sameName] at storedCleared found
          rcases releases.stored_of_writeAttachment storedCleared found with ⟨version, rfl⟩
          exact .detached ready deletingCleared (Metadata.hasFinalizer_removeFinalizer _ _)

theorem detach_settled (ready : reconciler.ready = true)
    (atHand : AtHand reconciler before attachment) (deleting : attachment.isDeleting = true)
    (ends : DetachEnds circumstances reconciler attachment before (.ok ()) after)
    (found : Table.find? after.attachments attachment.name = some kept) :
    Settled reconciler after kept := by
  generalize isOk : (.ok () : Except Failure Unit) = result at ends
  cases ends with
  | unknownNode | noVolume | unprepared | failed => contradiction
  | unguarded unguarded =>
      cases atHand.stored.symm.trans found
      exact .detached ready deleting unguarded
  | detached carries known named prepared reply final marks =>
      exact mark_settled ready (atHand.called _).stored deleting carries (isOk ▸ marks) found

/-- The work on a stored attachment, if it succeeds, settles it. -/
theorem sync_settled (isNamed : before.IsNamed)
    (stored : Table.find? before.attachments attachment.name = some attachment)
    (ends : (reconciler.syncAttachment attachment).Ends circumstances before (.ok ()) after)
    (found : Table.find? after.attachments attachment.name = some kept) :
    Settled reconciler after kept := by
  have course := syncAttachment_ends ends
  generalize isOk : (.ok () : Except Failure Unit) = result at course
  cases course with
  | foreign foreign =>
      cases stored.symm.trans found
      exact .foreign foreign
  | notReady => contradiction
  | attach addressee ready notDeleting course =>
      exact attach_settled ready ⟨isNamed, stored, addressee⟩ notDeleting (isOk ▸ course) found
  | detach addressee ready deleting course =>
      exact detach_settled ready ⟨isNamed, stored, addressee⟩ deleting (isOk ▸ course) found

theorem trivial_attached {ready : Bool}
    (stored : Table.find? before.attachments attachment.name = some attachment)
    (ends : (Trivial.syncAttachment ready attachment).Ends circumstances before (.ok ()) after)
    (found : Table.find? after.attachments attachment.name = some kept) :
    ready = true ∧ kept.isAttached = true := by
  unfold Trivial.syncAttachment at ends
  rw [Action.ends_bind] at ends
  rcases ends with ⟨_, middle, checked, ends⟩ | ⟨failure, checked, same⟩
  · cases ready with
    | false => cases checked.1
    | true =>
        cases checked.2
        refine ⟨rfl, ?_⟩
        have ended := scheduling_ends ends
        split at ended
        next =>
            rcases (Action.ends_discard (Action.writeStatus attachment _)).mp ended with
              ⟨answer, writes, isOk⟩
            cases answer with
            | error failure => contradiction
            | ok written =>
                have answered := (Action.ends_writeStatus _ _).mp writes
                rcases answered.stored_of_writeStatus stored found with ⟨version, rfl⟩
                rfl
        next attached =>
            cases ended.2
            cases stored.symm.trans found
            simpa using attached
  · contradiction

theorem trivial_reading? (attached : attachment.isAttached = true) :
    (Trivial.syncAttachment true attachment).reading? site = some (.ok ()) := by
  have checks : (requireQueues true).reading? site = some (.ok ()) := rfl
  unfold Trivial.syncAttachment
  rw [Action.reading?_bind checks]
  apply Action.reading?_scheduling
  rw [attached]
  rfl

theorem handler_reading? {handler : Handler} (isNamed : before.IsNamed)
    (stored : Table.find? before.attachments attachment.name = some attachment)
    (ends : (handler.syncAttachment attachment).Ends circumstances before (.ok ()) after)
    (found : Table.find? after.attachments attachment.name = some kept) :
    (handler.syncAttachment kept).reading? after = some (.ok ()) := by
  cases handler with
  | publishing reconciler => exact (sync_settled isNamed stored ends found).reading?
  | trivial ready =>
      rcases trivial_attached stored ends found with ⟨rfl, attached⟩
      exact trivial_reading? attached

/-- Once the work on a stored attachment has succeeded, in whatever circumstances, the work on the
attachment as it is then stored succeeds too, and in no circumstances does it write anything, call
the driver, or change anything of the cluster. -/
theorem syncAttachment_repeats {handler : Handler} {circumstances : Circumstances}
    {before after : Site} {attachment kept : VolumeAttachment} (isNamed : before.IsNamed)
    (stored : Table.find? before.attachments attachment.name = some attachment)
    (ends : (handler.syncAttachment attachment).Ends circumstances before (.ok ()) after)
    (found : Table.find? after.attachments attachment.name = some kept)
    (again : Circumstances) :
    (∃ requests, (handler.syncAttachment kept).run.Makes (Site.Answered again) after requests
        (.ok ()) after) ∧
      ∀ requests result later,
        (handler.syncAttachment kept).run.Makes (Site.Answered again) after requests result later →
        result = .ok () ∧ later = after ∧ ∀ request ∈ requests, request.isPassive := by
  have reads := handler_reading? isNamed stored ends found
  have isFixed := Site.isFixed_read? again after
  refine ⟨(Program.ends_iff_makes _).mp (Program.ends_of_result? isFixed reads), ?_⟩
  intro requests result later makes
  rcases makes.of_result? isFixed reads with ⟨isOk, same, read⟩
  exact ⟨isOk, same, fun request requestMem => Site.isPassive_of_read? (read request requestMem)⟩

open Simulation

theorem syncAttachment_repeats_undisturbedRun : ∃ kept,
    Table.find? undisturbedRun.2.site.attachments "va-1" = some kept ∧ kept.isAttached = true ∧
      ∀ requests result later,
        ((Handler.publishing smallReconciler).syncAttachment kept).run.Makes
          (Site.Answered .arbitrary) undisturbedRun.2.site requests result later →
        result = .ok () ∧ later = undisturbedRun.2.site ∧
          ∀ request ∈ requests, request.isPassive := by
  have isNamed : (smallCluster {}).world.site.IsNamed :=
    ⟨(smallCluster_isNamed {}).attachments, (smallCluster_isNamed {}).volumes⟩
  have stored : Table.find? (smallCluster {}).world.site.attachments smallAttachment.name =
      some smallAttachment := rfl
  have ends := World.perform_ends_arbitrary
    ((Handler.publishing smallReconciler).syncAttachment smallAttachment) (smallCluster {}).world
  change Action.Ends _ _ _ undisturbedRun.1 undisturbedRun.2.site at ends
  have succeeds : undisturbedRun.1.isOk = true := by decide +kernel
  have attached : (Table.find? undisturbedRun.2.site.attachments "va-1").any
      VolumeAttachment.isAttached = true := by decide +kernel
  cases result : undisturbedRun.1 with
  | error failure =>
      rw [result] at succeeds
      contradiction
  | ok value =>
      rw [result] at ends
      cases present : Table.find? undisturbedRun.2.site.attachments "va-1" with
      | none =>
          rw [present] at attached
          contradiction
      | some kept =>
          rw [present] at attached
          exact ⟨kept, rfl, attached,
            (syncAttachment_repeats isNamed stored ends present .arbitrary).2⟩

end VolumeAttacher.Reconcile
