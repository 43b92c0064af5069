import VolumeAttacher.Proofs.Reconcile.Frame
import VolumeAttacher.Proofs.Simulation.Intake

/-!
# Error records come back as no work

The attacher watches the attachments whose status it writes itself. A change of an attachment is no
work if it is one of its version, its managed fields and its error records alone. This is the same
as that the attachments agree on all that work depends on (`isChangeOf_eq_false_iff`), where an
attachment without a status agrees with one whose status says nothing but errors.

From left to right this holds of chains of changes too, so that no number of changes that are passed
over amounts to one that is work. From right to left it holds of every error that is recorded and of
every one that is cleared, since an accepted write is computed from the stored attachment.
-/

namespace VolumeAttacher

namespace VolumeAttachment

/-- What the driver told when the volume was attached. -/
def attachmentMetadata? (attachment : VolumeAttachment) : Option (Table String) :=
  attachment.status.bind AttachmentStatus.attachmentMetadata

/-- Whether two attachments agree on all that work depends on. -/
structure Agrees (old new : VolumeAttachment) : Prop where
  spec : new.spec = old.spec
  metadata : new.metadata =
    { old.metadata with
      resourceVersion := new.metadata.resourceVersion
      managedFields := new.metadata.managedFields }
  attached : new.isAttached = old.isAttached
  attachmentMetadata : new.attachmentMetadata? = old.attachmentMetadata?

variable {old new last : VolumeAttachment}

theorem Agrees.refl (attachment : VolumeAttachment) : attachment.Agrees attachment :=
  ⟨rfl, rfl, rfl, rfl⟩

theorem Agrees.trans (agrees : old.Agrees new) (later : new.Agrees last) : old.Agrees last where
  spec := later.spec.trans agrees.spec
  metadata := by rw [later.metadata, agrees.metadata]
  attached := later.attached.trans agrees.attached
  attachmentMetadata := later.attachmentMetadata.trans agrees.attachmentMetadata

/-- What is left of a status without its error records, if that says anything. -/
def remainder? (status : Option AttachmentStatus) : Option AttachmentStatus :=
  (status.map fun status => { status with attachError := none, detachError := none }).filter
    (· ≠ {})

theorem remainder?_eq (status : Option AttachmentStatus) :
    remainder? status =
      if status.any AttachmentStatus.attached = false ∧
          status.bind AttachmentStatus.attachmentMetadata = none then none
      else some
        { attached := status.any AttachmentStatus.attached
          attachmentMetadata := status.bind AttachmentStatus.attachmentMetadata } := by
  cases status with
  | none => rfl
  | some status =>
      rcases status with ⟨attached, attachmentMetadata, attachError, detachError⟩
      cases attached <;> cases attachmentMetadata <;> simp [remainder?, Option.filter_some]

theorem remainder?_eq_iff {status other : Option AttachmentStatus} :
    remainder? status = remainder? other ↔
      status.any AttachmentStatus.attached = other.any AttachmentStatus.attached ∧
        status.bind AttachmentStatus.attachmentMetadata =
          other.bind AttachmentStatus.attachmentMetadata := by
  rw [remainder?_eq, remainder?_eq]
  generalize status.any AttachmentStatus.attached = attached
  generalize other.any AttachmentStatus.attached = otherAttached
  constructor
  · intro same
    split at same
    next nothing =>
        split at same
        next otherNothing =>
            exact ⟨nothing.1.trans otherNothing.1.symm, nothing.2.trans otherNothing.2.symm⟩
        next => contradiction
    next =>
        split at same
        next => contradiction
        next => simpa using same
  · rintro ⟨rfl, same⟩
    rw [same]

theorem unversioned_eq_iff {metadata other : Metadata} :
    { metadata with resourceVersion := none, managedFields := none } =
        { other with resourceVersion := none, managedFields := none } ↔
      other =
        { metadata with
          resourceVersion := other.resourceVersion
          managedFields := other.managedFields } := by
  constructor
  · intro same
    exact (congrArg (fun bare : Metadata =>
      { bare with
        resourceVersion := other.resourceVersion
        managedFields := other.managedFields }) same).symm
  · intro same
    rw [same]

theorem isChangeOf_eq_false_iff : new.isChangeOf old = false ↔ old.Agrees new := by
  have essences : old.essence = new.essence ↔
      (old.spec = new.spec ∧ remainder? old.status = remainder? new.status) ∧
        { old.metadata with resourceVersion := none, managedFields := none } =
          { new.metadata with resourceVersion := none, managedFields := none } := by
    simp only [essence, remainder?, VolumeAttachment.mk.injEq]
    tauto
  rw [isChangeOf, decide_eq_false_iff_not, not_not, essences, unversioned_eq_iff,
    remainder?_eq_iff]
  constructor
  · rintro ⟨⟨spec, attached, attachmentMetadata⟩, metadata⟩
    exact ⟨spec.symm, metadata, attached.symm, attachmentMetadata.symm⟩
  · rintro ⟨spec, metadata, attached, attachmentMetadata⟩
    exact ⟨⟨spec.symm, attached.symm, attachmentMetadata.symm⟩, metadata⟩

/-- Whether a change of an attachment is no work. -/
def Ignored (old new : VolumeAttachment) : Prop :=
  Reconcile.Task.ofAttachmentChange? (.updated old new) = none

theorem ignored_iff : Ignored old new ↔ old.Agrees new := by
  rw [Ignored, Reconcile.Task.ofAttachmentChange?, ← isChangeOf_eq_false_iff]
  cases new.isChangeOf old <;> simp

/-- Changes that are no work one by one are no work all together. -/
theorem agrees_of_reflTransGen (ignored : Relation.ReflTransGen Ignored old last) :
    old.Agrees last := by
  induction ignored with
  | refl => exact .refl old
  | tail _ step ih => exact ih.trans (ignored_iff.mp step)

end VolumeAttachment

namespace Reconcile

/-- What the attacher notes of errors in the status of an attachment: it records one, or it clears
that of attaching. -/
inductive Notes (status : Option AttachmentStatus) : Option AttachmentStatus → Prop
  | failed (operation : Operation) (error : VolumeError) :
      Notes status (some (operation.recorded error (status.getD {})))
  | settled : Notes status (status.map fun status => { status with attachError := none })

variable {stored new : VolumeAttachment} {status : Option AttachmentStatus}

theorem Notes.agrees (notes : Notes stored.status status) (version : Option String)
    (managedFields : Option (List ManagedFields)) :
    stored.Agrees
      { stored with
        metadata := { stored.metadata with resourceVersion := version, managedFields }
        status } := by
  rcases stored with ⟨metadata, spec, old⟩
  cases notes with
  | failed operation error => cases operation <;> cases old <;> exact ⟨rfl, rfl, rfl, rfl⟩
  | settled => cases old <;> exact ⟨rfl, rfl, rfl, rfl⟩

/-- The requests of noting an error of an attachment: a write is a note on it. -/
inductive MayNote (attachment : VolumeAttachment) : Request → Prop
  | other {request : Request} (noWrite : request.isWrite = false) : MayNote attachment request
  | note {new : VolumeAttachment} (notes : Notes attachment.status new.status) :
      MayNote attachment (.writeStatus attachment new)

theorem record_mayNote (operation : Operation) (attachment : VolumeAttachment)
    (failure : Failure) :
    (record operation attachment failure).Heeds (MayNote attachment) (fun _ _ => True)
      fun _ => True := by
  apply Action.heeds_bind
  apply Action.heeds_request .currentTime .ok rfl (.other rfl)
  intro _ time _ _
  apply Action.heeds_bind
  apply Action.heeds_outcome
  · apply Action.heeds_request (.writeStatus attachment _) id rfl (.note (.failed operation _))
    intro _ _ _ _
    exact Action.heeds_pure trivial
  · intro _
    exact Action.heeds_pure trivial

theorem clearAttachError_mayNote (attachment : VolumeAttachment) :
    (Reconciler.clearAttachError attachment).Heeds (MayNote attachment) (fun _ _ => True)
      fun _ => True := by
  unfold Reconciler.clearAttachError
  split
  · apply Action.heeds_bind
    apply Action.heeds_request (.writeStatus attachment _) id rfl (.note .settled)
    intro _ _ _ _
    exact Action.heeds_pure trivial
  · exact Action.heeds_pure trivial

end Reconcile

/-- A change that is no work is taken in and has no other effect. -/
theorem Simulation.ControllerRun.actIntake_of_ignored {run : ControllerRun}
    {old new : VolumeAttachment} {later : List Event} (ignored : old.Ignored new)
    (isOn : run.cancelled = false) (next : run.changes = .attachment (.updated old new) :: later) :
    run.actIntake = { run with changes := later } := by
  rw [actIntake_eq, if_neg (ne_true_of_eq_false isOn), next]
  rw [VolumeAttachment.Ignored] at ignored
  simp [takeIn, next, ignored, addTasks]

namespace Reconcile.Reconciler

variable {reconciler : Reconciler}

/-- An accepted note is one of the stored attachment, whichever version the call has seen, and the
change that it makes is ignored. -/
theorem exists_ignored_of_notes {initial : Program.System Request Request.Answer Errand
      (Except Failure Unit) Annals}
    {before after : List (Program.Call Request Request.Answer Errand (Except Failure Unit))}
    {annals later : Annals} {errand : Errand} {isMade : Bool} {old new written : VolumeAttachment}
    {next : Except Failure VolumeAttachment → Requests (Except Failure Unit)}
    (reaches : Program.Reaches reconciler.alongside initial
      ⟨annals, before ++ ⟨errand, isMade, .ask (.writeStatus old new) next⟩ :: after⟩)
    (noCalls : initial.calls = []) (kept : initial.shared.IsKept)
    (notes : Notes old.status new.status)
    (answered : Annals.Answered (.writeStatus old new) annals (.ok written) later) :
    ∃ stored, Table.find? annals.attachments.objects old.name = some stored ∧
      later.attachments.past old.name = annals.attachments.past old.name ++ [written] ∧
      ∀ managedFields,
        stored.Ignored { written with metadata := { written.metadata with managedFields } } := by
  have holds := reconciler.alongsideUpkeep.holds_of_reaches reaches noCalls kept
  rcases holds.follows _ (List.mem_append_right _ List.mem_cons_self) with
    ⟨_, ⟨_, rfl, _⟩, abides⟩
  have isKnown : annals.attachments.IsPast old := (Abides.callMayMake abides).isOfKnown
  cases answered.2 with
  | @accepted stored version _ found sameVersion gains =>
      cases holds.valid.attachments.eq_of_version_eq isKnown found sameVersion
      refine ⟨_, found, (gains.past _).trans (if_pos rfl), ?_⟩
      intro managedFields
      exact VolumeAttachment.ignored_iff.mpr (notes.agrees (some version) managedFields)

/-- Errors that the attacher records, and one of attaching that it clears, come back as no work.
All that it writes on an attachment to record or to clear one is a note. Whichever calls run beside
each other, on whatever copies, and whatever others do meanwhile, the change from the attachment
that was stored before an accepted note to the one that was stored by it leaves all as it is but
that it has been taken in, whatever the store makes of the managed fields. And whatever number of
changes come back as no work one after another, the first and the last attachment agree on all that
work depends on. -/
theorem notes_are_ignored :
    (∀ attachment,
      (∀ operation failure, (record operation attachment failure).Heeds (MayNote attachment)
        (fun _ _ => True) fun _ => True) ∧
        (clearAttachError attachment).Heeds (MayNote attachment) (fun _ _ => True)
          fun _ => True) ∧
    (∀ {reconciler : Reconciler}
      {initial : Program.System Request Request.Answer Errand (Except Failure Unit) Annals}
      {before after : List (Program.Call Request Request.Answer Errand (Except Failure Unit))}
      {annals later : Annals} {errand : Errand} {isMade : Bool}
      {old new written : VolumeAttachment}
      {next : Except Failure VolumeAttachment → Requests (Except Failure Unit)},
      Program.Reaches reconciler.alongside initial
        ⟨annals, before ++ ⟨errand, isMade, .ask (.writeStatus old new) next⟩ :: after⟩ →
      initial.calls = [] → initial.shared.IsKept → Notes old.status new.status →
      Annals.Answered (.writeStatus old new) annals (.ok written) later →
      ∃ stored, Table.find? annals.attachments.objects old.name = some stored ∧
        later.attachments.past old.name = annals.attachments.past old.name ++ [written] ∧
        ∀ managedFields (run : Simulation.ControllerRun) changes, run.cancelled = false →
          run.changes = .attachment (.updated stored
            { written with metadata := { written.metadata with managedFields } }) :: changes →
          run.actIntake = { run with changes }) ∧
    ∀ first last, Relation.ReflTransGen VolumeAttachment.Ignored first last →
      first.Agrees last := by
  refine ⟨?_, ?_, ?_⟩
  · intro attachment
    constructor
    · intro operation failure
      exact record_mayNote operation attachment failure
    · exact clearAttachError_mayNote attachment
  · intro reconciler initial before after annals later errand isMade old new written next reaches
      noCalls kept notes answered
    rcases exists_ignored_of_notes reaches noCalls kept notes answered with
      ⟨stored, found, past, ignored⟩
    refine ⟨stored, found, past, ?_⟩
    intro managedFields run changes isOn taken
    exact Simulation.ControllerRun.actIntake_of_ignored (ignored managedFields) isOn taken
  · intro first last ignored
    exact VolumeAttachment.agrees_of_reflTransGen ignored

open Simulation

/-- The small attachment with the error that its volume is not found. -/
def notedAttachment : VolumeAttachment :=
  smallAttachment.withStatus (Operation.attach.recorded
    { message := some (Failure.notFound .persistentVolume "pv-1").message
      time := some ⟨World.clockStart, 0⟩ })

/-- The error that a sync of the small attachment records if its volume is not in the cache. -/
theorem notes_are_ignored_of_missing_volume : ∃ next,
    Program.Reaches smallReconciler.alongside ⟨smallAnnals, []⟩
      ⟨smallAnnals, [⟨.attachment smallAttachment, true,
        .ask (.writeStatus smallAttachment notedAttachment) next⟩]⟩ ∧
      Notes smallAttachment.status notedAttachment.status ∧
      (∀ (run : ControllerRun) changes, run.cancelled = false →
        run.changes = .attachment (.updated smallAttachment
          (Versioned.stamped notedAttachment "2")) :: changes →
        run.actIntake = { run with changes }) ∧
      smallAttachment.Agrees (Versioned.stamped notedAttachment "2") := by
  have shape : ∃ (lookUp : Option PersistentVolume → _) (note : Timestamp → _)
      (next : Except Failure _ → _),
      ((Errand.attachment smallAttachment).work smallReconciler).run =
          .ask (.volume "pv-1") lookUp ∧
        lookUp none = .ask .currentTime note ∧
        note ⟨World.clockStart, 0⟩ =
          .ask (.writeStatus smallAttachment notedAttachment) next :=
    ⟨_, _, _, rfl, rfl, rfl⟩
  rcases shape with ⟨lookUp, note, next, starts, misses, goesOn⟩
  have begins : Program.Step smallReconciler.alongside ⟨smallAnnals, []⟩
      ⟨smallAnnals, [⟨.attachment smallAttachment, false, .ask (.volume "pv-1") lookUp⟩]⟩ :=
    .begin ⟨rfl, show smallAttachment ∈ [smallAttachment] from List.mem_singleton_self _,
      starts.symm⟩
  have missed : Program.Step smallReconciler.alongside
      ⟨smallAnnals, [⟨.attachment smallAttachment, true, .ask (.volume "pv-1") lookUp⟩]⟩
      ⟨smallAnnals, [⟨.attachment smallAttachment, false, lookUp none⟩]⟩ :=
    .answer [] [] ⟨rfl, fun volume same => nomatch same⟩
  rw [misses] at missed
  have timed : Program.Step smallReconciler.alongside
      ⟨smallAnnals, [⟨.attachment smallAttachment, true, .ask .currentTime note⟩]⟩
      ⟨smallAnnals,
        [⟨.attachment smallAttachment, false, note ⟨World.clockStart, 0⟩⟩]⟩ :=
    .answer [] [] rfl
  rw [goesOn] at timed
  have reaches : Program.Reaches smallReconciler.alongside ⟨smallAnnals, []⟩
      ⟨smallAnnals, [] ++ ⟨.attachment smallAttachment, true,
        .ask (.writeStatus smallAttachment notedAttachment) next⟩ :: []⟩ :=
    .tail (.tail (.tail (.tail (.tail (.single begins) (.make [] [])) missed) (.make [] []))
      timed) (.make [] [])
  have notes : Notes smallAttachment.status notedAttachment.status := .failed .attach _
  have fresh : Versioned.version (Versioned.stamped notedAttachment "2") ∉
      (smallAnnals.attachments.past "va-1").map Versioned.version := by decide
  have answered : Annals.Answered (.writeStatus smallAttachment notedAttachment) smallAnnals
      (.ok (Versioned.stamped notedAttachment "2"))
      { smallAnnals with
        attachments := smallAnnals.attachments.store (Versioned.stamped notedAttachment "2") } :=
    ⟨rfl, .accepted rfl rfl (Chronicle.gains_store fresh)⟩
  rcases notes_are_ignored.2.1 reaches rfl
      ⟨Chronicle.single_isKept _, Chronicle.single_isKept _⟩ notes answered with
    ⟨stored, found, _, ignored⟩
  cases found
  have agrees : smallAttachment.Agrees (Versioned.stamped notedAttachment "2") :=
    notes_are_ignored.2.2 _ _ (.single (VolumeAttachment.ignored_iff.mpr ⟨rfl, rfl, rfl, rfl⟩))
  exact ⟨next, reaches, notes, ignored none, agrees⟩

end Reconcile.Reconciler

end VolumeAttacher
