import VolumeAttacher.Proofs.Reconcile.CachedNode

/-!
# Whether the driver is given names

To publish a volume, and to unpublish it, the driver is given its names of the volume and of the
node; an unpublish call without the name of a node is about all nodes. Attaching checks both names
before it asks the driver, and detaching checks neither. So the calls of an errand name what they
are about, unless it is to detach a volume and one of the names that are looked up for that is
empty.
-/

namespace VolumeAttacher

/-- Whether a call that publishes or unpublishes a volume names the volume and the node. -/
def Csi.Call.IsNamed : Csi.Call → Prop
  | .publish request => request.volumeId ≠ "" ∧ request.nodeId ≠ ""
  | .unpublish request => request.volumeId ≠ "" ∧ request.nodeId ≠ ""
  | .list _ => True

namespace Reconcile

/-- The calls to the driver that a request is. -/
def Request.sent : Request → List Csi.Call
  | call driverCall => [driverCall]
  | _ => []

theorem Site.Answered.calls {circumstances : Circumstances} {request : Request}
    {answer : request.Answer} {before after : Site}
    (answered : Site.Answered circumstances request before answer after) :
    after.calls = request.sent ++ before.calls := by
  cases request with
  | writeAttachment | writeStatus | writeVolume =>
      rcases answered with ⟨_, rfl, _⟩
      rfl
  | csiNode | node | secret | attachment | attachments | volume | volumes | call =>
      rcases answered with ⟨_, rfl⟩
      rfl
  | currentTime | enqueue | retry | forget =>
      cases answered
      rfl

theorem isNamed_of_isLook {request : Request} (isLook : request.isLook) :
    ∀ call ∈ request.sent, call.IsNamed := by
  intro call callMem
  cases request with
  | call driverCall =>
      rw [List.mem_singleton.mp callMem]
      cases driverCall with
      | publish | unpublish => contradiction
      | list => trivial
  | _ => contradiction

/-- Whether a site is another one after calls to the driver that were all named, or not, as a
condition tells. -/
def Site.Sends (before after : Site) (named : Prop) : Prop :=
  ∃ sent, after.calls = sent ++ before.calls ∧ ((∀ call ∈ sent, call.IsNamed) ↔ named)

open Reconciler

variable {reconciler : Reconciler} {circumstances : Circumstances} {before middle after : Site}
  {attachment : VolumeAttachment}

theorem sends_nothing {named : Prop} (same : after.calls = before.calls) (isNamed : named) :
    before.Sends after named :=
  ⟨[], same, by simp [isNamed]⟩

theorem Site.Sends.of_named {named : Prop} (sends : before.Sends after True) (isNamed : named) :
    before.Sends after named := by
  rcases sends with ⟨sent, calls, allNamed⟩
  exact ⟨sent, calls, allNamed.trans (iff_true_intro isNamed).symm⟩

theorem sends_call {call : Csi.Call} {named : Prop} (sent : after.calls = call :: before.calls)
    (isNamed : call.IsNamed ↔ named) : before.Sends after named :=
  ⟨[call], sent, by simpa using isNamed⟩

theorem Records.calls {operation : Operation} {failure : Failure}
    (records : Records circumstances operation attachment failure before after) :
    after.calls = before.calls := by
  rcases records with ⟨_, _, answered⟩
  exact answered.calls

theorem protectVolume_calls {volume : PersistentVolume} {result : Except Failure Unit}
    (ends : (reconciler.protectVolume volume).Ends circumstances before result after) :
    after.calls = before.calls := by
  unfold protectVolume at ends
  split at ends
  · rcases (Action.ends_discard (Action.writeVolume volume _)).mp ends with ⟨answer, writes, _⟩
    exact ((Action.ends_writeVolume _ _).mp writes).calls
  · rcases ends with ⟨_, rfl⟩
    rfl

theorem protectAttachment_calls {nodeId : Except Failure String}
    {result : Except Failure VolumeAttachment}
    (ends : (reconciler.protectAttachment attachment nodeId).Ends circumstances before result
      after) : after.calls = before.calls := by
  unfold protectAttachment at ends
  split at ends
  · rcases ends with ⟨_, rfl⟩
    rfl
  · exact ((Action.ends_writeAttachment _ _).mp ends).calls

theorem clearAttachError_calls {result : Except Failure Unit}
    (ends : (clearAttachError attachment).Ends circumstances before result after) :
    after.calls = before.calls := by
  unfold clearAttachError at ends
  split at ends
  · rcases (Action.ends_discard (Action.writeStatus attachment _)).mp ends with ⟨answer, writes, _⟩
    exact ((Action.ends_writeStatus _ _).mp writes).calls
  · rcases ends with ⟨_, rfl⟩
    rfl

theorem MarkEnds.calls {result : Except Failure Unit}
    (ends : MarkEnds circumstances reconciler attachment before result after) :
    after.calls = before.calls := by
  cases ends with
  | uncleared stale clears => exact clears.calls
  | released clears releases =>
      rcases clears with ⟨_, clears⟩ | ⟨_, _, rfl⟩
      · exact releases.calls.trans clears.calls
      · exact releases.calls

theorem publishCall_isNamed {backdrop : Backdrop} {volume : PersistentVolume}
    {nodeId : Except Failure String} {request : Csi.AttachRequest}
    (sent : backdrop.sentRequest reconciler volume nodeId = .ok request) :
    (publishCall request).IsNamed := by
  unfold Backdrop.sentRequest at sent
  split at sent
  · contradiction
  · split at sent
    · contradiction
    next named =>
        cases sent
        simpa [publishCall, Csi.Call.IsNamed] using named

theorem PublishEnds.sends {volume : PersistentVolume} {nodeId : Except Failure String}
    {result : Except Failure Unit}
    (ends : PublishEnds circumstances reconciler attachment volume nodeId before result after) :
    before.Sends after True := by
  cases ends with
  | unsent unsent records => exact sends_nothing records.calls trivial
  | failed sent reply records =>
      exact sends_call records.calls (iff_true_intro (publishCall_isNamed sent))
  | confirmed sent reply confirms =>
      exact sends_call confirms.calls (iff_true_intro (publishCall_isNamed sent))

/-- Attaching always names the volume and the node. -/
theorem AttachEnds.sends {result : Except Failure Unit}
    (ends : AttachEnds circumstances reconciler attachment before result after) :
    before.Sends after True := by
  cases ends with
  | noVolume _ records | missing _ _ records | deleting _ _ _ _ records =>
      exact sends_nothing records.calls trivial
  | foreign => exact sends_nothing rfl trivial
  | unshielded engages shield records =>
      exact sends_nothing (records.calls.trans (protectVolume_calls shield)) trivial
  | unguarded engages shield guard records =>
      have guarded := (protectAttachment_calls guard).trans (protectVolume_calls shield)
      exact sends_nothing (records.calls.trans guarded) trivial
  | attached engages shield guard attached clear =>
      have guarded := (protectAttachment_calls guard).trans (protectVolume_calls shield)
      exact sends_nothing ((clearAttachError_calls clear).trans guarded) trivial
  | published engages shield guard notAttached publish =>
      have guarded := (protectAttachment_calls guard).trans (protectVolume_calls shield)
      rcases publish.sends with ⟨sent, calls, named⟩
      exact ⟨sent, calls.trans (congrArg (sent ++ ·) guarded), named⟩

/-- Whether the work on an attachment detaches its volume, and the name of the volume or of the node
that is looked up for that is empty. -/
structure DetachesUnnamed (reconciler : Reconciler) (site : Site)
    (attachment : VolumeAttachment) : Prop where
  addressee : reconciler.isAddressee attachment = true
  ready : reconciler.ready = true
  deleting : attachment.isDeleting = true
  carries : attachment.metadata.hasFinalizer reconciler.finalizer = true
  unnamed : ∃ nodeId volumeName volumeId secrets,
    site.backdrop.nodeId reconciler attachment.spec.nodeName attachment.keptNodeId? =
      .ok nodeId ∧
    attachment.volumeName? = some volumeName ∧
    site.backdrop.detachInputs volumeName (Table.find? site.volumes volumeName) =
      .ok (volumeId, secrets) ∧
    (volumeId = "" ∨ nodeId = "")

/-- The names that are looked up for detaching are both there unless the volume is detached without
one of them. -/
theorem names_iff {nodeId volumeName volumeId : String} {secrets : Table String}
    (addressee : reconciler.isAddressee attachment = true) (ready : reconciler.ready = true)
    (deleting : attachment.isDeleting = true)
    (carries : attachment.metadata.hasFinalizer reconciler.finalizer = true)
    (known : before.backdrop.nodeId reconciler attachment.spec.nodeName
      (attachment.metadata.annotation? attachedNodeIdAnnotation) = .ok nodeId)
    (named : attachment.volumeName? = some volumeName)
    (prepared : before.backdrop.detachInputs volumeName
      (Table.find? before.volumes volumeName) = .ok (volumeId, secrets)) :
    (volumeId ≠ "" ∧ nodeId ≠ "") ↔ ¬ DetachesUnnamed reconciler before attachment := by
  constructor
  · rintro ⟨volumeNamed, nodeNamed⟩ detaches
    rcases detaches.unnamed with ⟨_, _, _, _, isNodeId, isVolumeName, isInputs, empty⟩
    cases known.symm.trans isNodeId
    cases named.symm.trans isVolumeName
    cases prepared.symm.trans isInputs
    rcases empty with volumeEmpty | nodeEmpty
    · exact volumeNamed volumeEmpty
    · exact nodeNamed nodeEmpty
  · intro names
    by_contra unnamed
    refine names ⟨addressee, ready, deleting, carries, nodeId, volumeName, volumeId, secrets,
      known, named, prepared, ?_⟩
    rwa [not_and_or, not_not, not_not] at unnamed

/-- Detaching names the volume and the node if both names that are looked up are not empty. -/
theorem DetachEnds.sends {result : Except Failure Unit}
    (addressee : reconciler.isAddressee attachment = true) (ready : reconciler.ready = true)
    (deleting : attachment.isDeleting = true)
    (ends : DetachEnds circumstances reconciler attachment before result after) :
    before.Sends after (¬ DetachesUnnamed reconciler before attachment) := by
  cases ends with
  | unguarded unguarded =>
      have named : ¬ DetachesUnnamed reconciler before attachment := by
        intro detaches
        exact absurd detaches.carries (ne_true_of_eq_false unguarded)
      exact sends_nothing rfl named
  | unknownNode carries unknown records =>
      have named : ¬ DetachesUnnamed reconciler before attachment := by
        intro detaches
        rcases detaches.unnamed with ⟨_, _, _, _, known, _⟩
        cases unknown.symm.trans known
      exact sends_nothing records.calls named
  | noVolume carries known unnamed records =>
      have named : ¬ DetachesUnnamed reconciler before attachment := by
        intro detaches
        rcases detaches.unnamed with ⟨_, _, _, _, _, isVolumeName, _⟩
        cases unnamed.symm.trans isVolumeName
      exact sends_nothing records.calls named
  | unprepared carries known named unprepared records =>
      have named : ¬ DetachesUnnamed reconciler before attachment := by
        intro detaches
        rcases detaches.unnamed with ⟨_, _, _, _, _, isVolumeName, isInputs, _⟩
        cases named.symm.trans isVolumeName
        cases unprepared.symm.trans isInputs
      exact sends_nothing records.calls named
  | failed carries known named prepared reply notFinal records =>
      exact sends_call records.calls
        (names_iff addressee ready deleting carries known named prepared)
  | detached carries known named prepared reply final marks =>
      exact sends_call marks.calls
        (names_iff addressee ready deleting carries known named prepared)

namespace Reconciler

/-- Whether an errand has the driver detach a volume without a name. -/
def Errand.IsUnnamed (reconciler : Reconciler) (site : Site) : Errand → Prop
  | .attachment given => DetachesUnnamed reconciler site given
  | .volume _ | .everything => False

/-- A call that does not work on an attachment only lists what is published. -/
theorem Keeps.sends {action : Action Unit} {stage : Stage} {result : Except Failure Unit}
    (keeps : reconciler.Keeps action stage)
    (ends : action.Ends circumstances before result after) (general : stage.copy? = none) :
    before.Sends after True := by
  have upheld : Program.Upheld reconciler.Move (Site.Answered circumstances)
      fun stage site => stage.copy? = none ∧ before.Sends site True := by
    rintro stage request later move middle answer after ⟨general, sends⟩ answered
    rcases sends with ⟨sent, calls, named⟩
    have callsAfter : after.calls = (request.sent ++ sent) ++ before.calls := by
      rw [answered.calls, calls, List.append_assoc]
    cases move with
    | look isLook =>
        refine ⟨general, _, callsAfter, ?_⟩
        rw [List.forall_mem_append, iff_true_right trivial]
        exact ⟨isNamed_of_isLook isLook, named.mpr trivial⟩
    | remark => exact ⟨rfl, sent, callsAfter, named⟩
    | survey volume =>
        refine ⟨?_, sent, callsAfter, named⟩
        unfold afterSurvey
        split <;> rfl
    | release volume => exact ⟨rfl, sent, callsAfter, named⟩
    | _ => contradiction
  rcases ends.fits upheld keeps.follows ⟨general, sends_nothing rfl trivial⟩ with ⟨_, _, _, sends⟩
  exact sends

/-- In whatever site a reconciler does its work, and whatever the driver answers and whichever
writes are refused: the calls that the driver is sent all name the volume and the node that they are
about, unless the volume of an attachment is detached and a name that is looked up for this is
empty, and then they do not. -/
theorem Errand.calls_named_iff {errand : Errand} {result : Except Failure Unit}
    (ends : (errand.work reconciler).Ends circumstances before result after) :
    ∃ sent, after.calls = sent ++ before.calls ∧
      ((∀ call ∈ sent, call.IsNamed) ↔ ¬ errand.IsUnnamed reconciler before) := by
  cases errand with
  | attachment given =>
      cases syncAttachment_ends ends with
      | foreign foreign =>
          refine sends_nothing rfl ?_
          intro detaches
          exact absurd detaches.addressee (ne_true_of_eq_false foreign)
      | notReady addressee notReady =>
          refine sends_nothing rfl ?_
          intro detaches
          exact absurd detaches.ready (ne_true_of_eq_false notReady)
      | attach addressee ready notDeleting ends =>
          have named : ¬ DetachesUnnamed reconciler before given := by
            intro detaches
            exact absurd detaches.deleting (ne_true_of_eq_false notDeleting)
          exact ends.sends.of_named named
      | detach addressee ready deleting ends => exact ends.sends addressee ready deleting
  | volume given => exact ((syncVolume_keeps given).sends ends rfl).of_named not_false
  | everything => exact (reconcileAll_keeps.sends ends rfl).of_named not_false

open Simulation

/-- Attaching in the small cluster names the volume and the node. -/
theorem calls_named_after_attach : ∃ result after,
    ((Errand.attachment smallAttachment).work smallReconciler).Ends .arbitrary
      (smallCluster {}).world.site result after ∧
    ∃ sent, sent ≠ [] ∧ after.calls = sent ++ (smallCluster {}).world.site.calls ∧
      ∀ call ∈ sent, call.IsNamed := by
  have ends := World.perform_ends_arbitrary
    ((Errand.attachment smallAttachment).work smallReconciler) (smallCluster {}).world
  have attaches : ¬ (Errand.attachment smallAttachment).IsUnnamed smallReconciler
      (smallCluster {}).world.site := by
    intro detaches
    exact absurd detaches.deleting (by decide +kernel)
  rcases Errand.calls_named_iff ends with ⟨sent, calls, named⟩
  refine ⟨_, _, ends, sent, ?_, calls, named.mpr attaches⟩
  rintro rfl
  have called : ((smallCluster {}).world.perform
      ((Errand.attachment smallAttachment).work smallReconciler)).2.site.calls ≠ [] := by
    decide +kernel
  exact called calls

/-- The attachment of the small cluster once it is attached and is to be deleted. -/
def departing : VolumeAttachment :=
  { smallAttachment with
    metadata :=
      { smallAttachment.metadata.addFinalizer smallReconciler.finalizer with
        deletionTimestamp := some { seconds := 1717200000, nanoseconds := 0 } }
    status := some { attached := true } }

def namelessNode : Node where
  metadata :=
    { name := some "node-1" : Metadata }.annotate nodeIdAnnotation
      "\x7b\"csi.example.com\":\"\"\x7d"

/-- A small cluster with a node that is annotated with an empty name. -/
def namelessWorld : World :=
  let world := (smallCluster {}).world
  { world with
    store :=
      { world.store with
        attachments := { objects := [("va-1", departing)], versions := [("va-1", 1)] }
        csiNodes := []
        nodes := [("node-1", namelessNode)] } }

/-- A node with an empty annotated name has the driver unpublish the volume from all nodes. -/
theorem exists_unnamed_detach : ∃ reconciler site attachment result after,
    ((Errand.attachment attachment).work reconciler).Ends .arbitrary site result after ∧
      Table.find? site.attachments attachment.name = some attachment ∧
      ∃ call, after.calls = call :: site.calls ∧ ¬ call.IsNamed := by
  have ends := World.perform_ends_arbitrary
    ((Errand.attachment departing).work smallReconciler) namelessWorld
  refine ⟨_, _, _, _, _, ends, rfl,
    .unpublish { volumeId := "vol-1", nodeId := "", secrets := [] }, by decide +kernel, ?_⟩
  intro named
  exact named.2 rfl

end Reconciler

end Reconcile

end VolumeAttacher
