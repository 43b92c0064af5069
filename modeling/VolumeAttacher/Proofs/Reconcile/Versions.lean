import VolumeAttacher.Proofs.Cluster.Archive
import VolumeAttacher.Proofs.Reconcile.Stages

/-!
# The effects of calls on versions

What a call knows of the copy that it works on, even if the copy is outdated: the copy is a version
that has been stored at some time, and the stages say what it looks like. Since a write is accepted
only if it was computed from the stored version, this is enough to tell what each move may do to the
stored attachments.
-/

namespace VolumeAttacher.Reconcile

namespace Reconciler

variable (reconciler : Reconciler)

/-- What a call knows of its copy in each stage. -/
def Knows (archive : Archive) : Stage → Prop
  | .attaching attachment | .found attachment _ | .shielded attachment | .detaching attachment
  | .unpublished attachment => attachment ∈ archive.past attachment.name
  | .guarded attachment | .published attachment =>
      attachment ∈ archive.past attachment.name ∧
        attachment.metadata.hasFinalizer reconciler.finalizer
  | .cleared attachment =>
      attachment ∈ archive.past attachment.name ∧ ¬attachment.isAttached
  | .releasing _ | .unused _ | .resting => True

/-- What an answered move may have done to an archive: nothing, or it has stored a new version. This
is marked as attached only if the last one was, or if it carries the finalizer, and it keeps the
finalizer unless the last one has been cleared. -/
inductive Renewal (stage : Stage) (before : Archive) : Archive → Prop
  | same : Renewal stage before before
  | written {name : String} {stored written : VolumeAttachment} {after : Archive}
      (found : Table.find? before.objects name = some stored)
      (gains : before.Gains name written after) (named : written.name = name)
      (spec : written.spec = stored.spec)
      (attached : written.isAttached →
        stored.isAttached ∨ written.metadata.hasFinalizer reconciler.finalizer)
      (kept : stored.metadata.hasFinalizer reconciler.finalizer →
        written.metadata.hasFinalizer reconciler.finalizer ∨ stage = .cleared stored) :
      Renewal stage before after

variable {reconciler} {stage : Stage} {before after : Archive}

theorem Knows.mem_past {attachment : VolumeAttachment} (knows : reconciler.Knows before stage)
    (held : stage.copy? = some attachment) : attachment ∈ before.past attachment.name := by
  cases stage with
  | attaching _ | found _ _ | shielded _ | detaching _ | unpublished _ =>
      cases held
      exact knows
  | guarded _ | published _ | cleared _ =>
      cases held
      exact knows.1
  | releasing _ | unused _ | resting => contradiction

/-- What a call knows stays so, since the versions only grow. -/
theorem Knows.mono (knows : reconciler.Knows before stage)
    (grows : ∀ name, before.past name ⊆ after.past name) : reconciler.Knows after stage := by
  cases stage with
  | attaching _ | found _ _ | shielded _ | detaching _ | unpublished _ => exact grows _ knows
  | guarded _ | published _ | cleared _ => exact ⟨grows _ knows.1, knows.2⟩
  | releasing _ | unused _ | resting => trivial

theorem renewal_of_writeStatus {old new : VolumeAttachment}
    {answer : (Request.writeStatus old new).Answer} (kept : before.IsKept)
    (answered : Archive.Answered (.writeStatus old new) before answer after)
    (attached : ∀ {stored}, Table.find? before.objects old.name = some stored →
      Versioned.version stored = Versioned.version old → new.isAttached →
      stored.isAttached ∨ stored.metadata.hasFinalizer reconciler.finalizer) :
    reconciler.Renewal stage before after := by
  cases answered with
  | refused failure => exact .same
  | @accepted stored stamp _ found sameVersion gains =>
      have storedName : stored.name = old.name := kept.name_eq found
      exact .written found gains storedName rfl (attached found sameVersion) Or.inl

/-- Versions are never used again, so that the copy that an accepted write was computed from is what
was stored. -/
theorem Move.renewal {request : Request} {later : request.Answer → Stage} {answer : request.Answer}
    (move : reconciler.Move stage request later) (kept : before.IsKept)
    (knows : reconciler.Knows before stage)
    (answered : Archive.Answered request before answer after) :
    reconciler.Renewal stage before after := by
  cases move with
  | look isLook =>
      rw [answered.eq_of_isLook isLook]
      exact .same
  | find _ | shield _ _ | publish _ _ | unpublish _ _ | survey _ | release _ =>
      rw [show after = before from answered]
      exact .same
  | guard attachment nodeId =>
      cases answered with
      | refused failure => exact .same
      | accepted found sameVersion gains =>
          cases kept.eq_of_version_eq knows found sameVersion
          refine .written found gains ?_ ?_ Or.inl ?_
          · exact name_protectedAttachment _ nodeId
          · exact spec_protectedAttachment _ nodeId
          · exact fun _ => Or.inl (hasFinalizer_protectedAttachment _ nodeId)
  | confirm attachment publishContext =>
      apply renewal_of_writeStatus kept answered
      intro stored found sameVersion _
      cases kept.eq_of_version_eq knows.1 found sameVersion
      exact Or.inr knows.2
  | clear attachment =>
      apply renewal_of_writeStatus kept answered
      intro stored found _ attached
      rw [isAttached_detached] at attached
      contradiction
  | unguard attachment =>
      cases answered with
      | refused failure => exact .same
      | accepted found sameVersion gains =>
          cases kept.eq_of_version_eq knows.1 found sameVersion
          exact .written found gains rfl rfl Or.inl fun _ => Or.inr rfl
  | @remark stage old new keeps =>
      apply renewal_of_writeStatus kept answered
      intro stored found sameVersion attached
      rcases keeps attached with ⟨held, wasAttached⟩
      cases kept.eq_of_version_eq (knows.mem_past held) found sameVersion
      exact Or.inl wasAttached

theorem knows_secured {attachment : VolumeAttachment}
    (known : attachment ∈ before.past attachment.name) :
    reconciler.Knows before (reconciler.secured attachment) := by
  unfold secured
  split
  next carries => exact ⟨known, carries⟩
  next => exact known

/-- A status that says nothing stale does not mark the attachment as attached. -/
theorem not_isAttached_of_not_stale {attachment : VolumeAttachment}
    (fresh : ¬attachment.status.any isStale) : ¬attachment.isAttached := by
  intro attached
  unfold VolumeAttachment.isAttached at attached
  apply fresh
  rw [Option.any_eq_true] at attached ⊢
  rcases attached with ⟨status, isStatus, attached⟩
  exact ⟨status, isStatus, by simp [isStale, attached]⟩

theorem knows_withdrawn {attachment : VolumeAttachment}
    (known : attachment ∈ before.past attachment.name) :
    reconciler.Knows before (withdrawn attachment) := by
  unfold withdrawn
  split
  · exact known
  next fresh => exact ⟨known, not_isAttached_of_not_stale fresh⟩

theorem Move.knows {request : Request} {later : request.Answer → Stage} {answer : request.Answer}
    (move : reconciler.Move stage request later) (kept : before.IsKept)
    (knows : reconciler.Knows before stage)
    (answered : Archive.Answered request before answer after) :
    reconciler.Knows after (later answer) := by
  cases move with
  | look isLook =>
      rw [answered.eq_of_isLook isLook]
      exact knows
  | find _ =>
      rw [show after = before from answered]
      cases answer with
      | none => exact knows
      | some volume =>
          simp only [afterLookup]
          split
          · exact knows_secured knows
          · exact knows
  | shield attachment volume =>
      rw [show after = before from answered]
      cases answer with
      | ok stored => exact knows_secured knows
      | error failure => exact knows
  | guard attachment nodeId =>
      cases answered with
      | refused failure => exact knows
      | @accepted stored stamp _ found sameVersion gains =>
          have known := gains.mem_past
          rw [Versioned.name_attachment, ← name_protectedAttachment attachment nodeId] at known
          exact ⟨known, hasFinalizer_protectedAttachment attachment nodeId⟩
  | publish attachment request =>
      rw [show after = before from answered]
      cases answer with
      | ok response => exact knows
      | error error => exact knows
  | unpublish carries request =>
      rw [show after = before from answered]
      cases answer with
      | ok response => exact knows_withdrawn knows
      | error error =>
          simp only [afterUnpublishing]
          split
          · exact knows_withdrawn knows
          · exact knows
  | clear attachment =>
      cases answered with
      | refused failure => trivial
      | @accepted stored stamp _ found sameVersion gains =>
          have sameName : stored.name = attachment.name := kept.name_eq found
          have known := gains.mem_past
          refine ⟨?_, ?_⟩
          · rw [Versioned.name_attachment, ← sameName] at known
            exact known
          · rw [Versioned.isAttached_stamped]
            exact Bool.eq_false_iff.mp (isAttached_detached attachment)
  | survey volume =>
      simp only [afterSurvey]
      split <;> trivial
  | confirm _ _ | unguard _ | remark _ | release _ => trivial

theorem Renewal.isKept (renewal : reconciler.Renewal stage before after) (kept : before.IsKept) :
    after.IsKept := by
  cases renewal with
  | same => exact kept
  | written found gains named spec attached keeps => exact gains.isKept kept named

theorem Renewal.prefix_past (renewal : reconciler.Renewal stage before after) (name : String) :
    before.past name <+: after.past name := by
  cases renewal with
  | same => exact List.prefix_rfl
  | written found gains named spec attached keeps => exact gains.prefix_past name

end Reconciler

end VolumeAttacher.Reconcile
