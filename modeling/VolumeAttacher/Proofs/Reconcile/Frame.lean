import VolumeAttacher.Proofs.Cluster.Chronicle
import VolumeAttacher.Proofs.Cluster.Simulated
import VolumeAttacher.Proofs.Program.System
import VolumeAttacher.Proofs.Reconcile.CachedNode
import VolumeAttacher.Proofs.Reconcile.Edits

/-!
# No update is lost

Calls of a reconciler run beside each other and beside other clients, who write and drop objects as
they like, and all of them work on copies that may be outdated. A write computes a whole new object
from such a copy. Still, a write of a reconciler that is accepted changes nothing of the object that
is stored just before it but the reconciler's own part, by one of the edits that `VolumeEdit` and
`AttachmentEdit` list: the copy is that object, since the store accepts no write that was computed
from another version of it.
-/

namespace VolumeAttacher.Reconcile

/-- What a write makes of a stored volume: the finalizer is appended to the list or all its copies
are removed, and the version is a new one. -/
inductive VolumeEdit (finalizer : String) (stored : PersistentVolume) : PersistentVolume → Prop
  | shielded (lacks : finalizer ∉ stored.metadata.finalizerList) (version : String) :
      VolumeEdit finalizer stored
        { stored with
          metadata :=
            { stored.metadata with
              finalizers := some (stored.metadata.finalizerList ++ [finalizer])
              resourceVersion := some version } }
  | released (version : String) :
      VolumeEdit finalizer stored
        { stored with
          metadata :=
            { stored.metadata with
              finalizers := some (stored.metadata.finalizerList.filter (· ≠ finalizer))
              resourceVersion := some version } }

/-- What a write makes of a stored attachment: the finalizer is appended to the list, and the
driver's name of the node may be annotated with it; or all its copies are removed; or the status is
restated. The version is a new one. -/
inductive AttachmentEdit (finalizer : String) (stored : VolumeAttachment) :
    VolumeAttachment → Prop
  | guarded (lacks : finalizer ∉ stored.metadata.finalizerList)
      {annotations : Option (Table String)}
      (annotated : annotations = stored.metadata.annotations ∨ ∃ nodeId,
        annotations = some (Table.insert (stored.metadata.annotations.getD [])
          attachedNodeIdAnnotation nodeId))
      (version : String) :
      AttachmentEdit finalizer stored
        { stored with
          metadata :=
            { stored.metadata with
              annotations
              finalizers := some (stored.metadata.finalizerList ++ [finalizer])
              resourceVersion := some version } }
  | unguarded (version : String) :
      AttachmentEdit finalizer stored
        { stored with
          metadata :=
            { stored.metadata with
              finalizers := some (stored.metadata.finalizerList.filter (· ≠ finalizer))
              resourceVersion := some version } }
  | restated {status : Option AttachmentStatus} (restates : Restates stored.status status)
      (version : String) :
      AttachmentEdit finalizer stored
        { stored with
          metadata := { stored.metadata with resourceVersion := some version }
          status }

theorem volumeEdit_shield {reconciler : Reconciler} {volume : PersistentVolume}
    (lacks : volume.metadata.hasFinalizer reconciler.finalizer = false) (version : String) :
    VolumeEdit reconciler.finalizer volume
      (Versioned.stamped
        { volume with metadata := volume.metadata.addFinalizer reconciler.finalizer } version) := by
  have notListed : reconciler.finalizer ∉ volume.metadata.finalizerList := by
    simpa [Metadata.hasFinalizer] using lacks
  have appended : volume.metadata.addFinalizer reconciler.finalizer =
      { volume.metadata with
        finalizers := some (volume.metadata.finalizerList ++ [reconciler.finalizer]) } := by
    rw [Metadata.addFinalizer, if_neg (ne_true_of_eq_false lacks)]
  rw [appended]
  exact .shielded notListed version

theorem attachmentEdit_guard {reconciler : Reconciler} {attachment : VolumeAttachment}
    (lacks : attachment.metadata.hasFinalizer reconciler.finalizer = false)
    (nodeId : Except Failure String) (version : String) :
    AttachmentEdit reconciler.finalizer attachment
      (Versioned.stamped
        { reconciler.protectedAttachment attachment nodeId with status := attachment.status }
        version) := by
  have notListed : reconciler.finalizer ∉ attachment.metadata.finalizerList := by
    simpa [Metadata.hasFinalizer] using lacks
  have appended : attachment.metadata.addFinalizer reconciler.finalizer =
      { attachment.metadata with
        finalizers := some (attachment.metadata.finalizerList ++ [reconciler.finalizer]) } := by
    rw [Metadata.addFinalizer, if_neg (ne_true_of_eq_false lacks)]
  unfold Reconciler.protectedAttachment
  rw [appended]
  cases nodeId with
  | ok id => exact .guarded notListed (.inr ⟨id, rfl⟩) version
  | error failure => exact .guarded notListed (.inl rfl) version

/-- The stored attachments and volumes with all their versions. -/
structure Annals where
  attachments : Chronicle VolumeAttachment
  volumes : Chronicle PersistentVolume

namespace Annals

structure IsKept (annals : Annals) : Prop where
  attachments : annals.attachments.IsKept
  volumes : annals.volumes.IsKept

/-- What has been stored at some time is known. -/
def knowledge (annals : Annals) : Knowledge where
  attachments := annals.attachments.IsPast
  volumes := annals.volumes.IsPast

/-- How a request may be answered. A cache may lag, and so an object is found in any version that
has been stored under its name, or not at all. -/
def Answered : (request : Request) → Annals → request.Answer → Annals → Prop
  | .attachment name, before, answer, after =>
      after = before ∧ ∀ attachment, answer = some attachment →
        attachment ∈ before.attachments.past name
  | .attachments, before, (answer : List VolumeAttachment), after =>
      after = before ∧ ∀ attachment ∈ answer, before.attachments.IsPast attachment
  | .volume name, before, answer, after =>
      after = before ∧ ∀ volume, answer = some volume → volume ∈ before.volumes.past name
  | .volumes, before, (answer : List PersistentVolume), after =>
      after = before ∧ ∀ volume ∈ answer, before.volumes.IsPast volume
  | .writeAttachment old new, before, answer, after =>
      after.volumes = before.volumes ∧
        before.attachments.Written old (fun stored => { new with status := stored.status }) answer
          after.attachments
  | .writeStatus old new, before, answer, after =>
      after.volumes = before.volumes ∧
        before.attachments.Written old (fun stored => { stored with status := new.status }) answer
          after.attachments
  | .writeVolume old new, before, answer, after =>
      after.attachments = before.attachments ∧
        before.volumes.Written old (fun _ => new) answer after.volumes
  | _, before, _, after => after = before

/-- A change by others, who write and drop objects as they like. -/
inductive Changed (before : Annals) : Annals → Prop
  | attachments {after : Chronicle VolumeAttachment}
      (changed : before.attachments.Changed (fun _ _ => True) (fun _ => True) after) :
      Changed before { before with attachments := after }
  | volumes {after : Chronicle PersistentVolume}
      (changed : before.volumes.Changed (fun _ _ => True) (fun _ => True) after) :
      Changed before { before with volumes := after }

variable {reconciler : Reconciler} {before after : Annals} {request : Request}
  {answer : request.Answer}

theorem Changed.isKept (changed : before.Changed after) (kept : before.IsKept) :
    after.IsKept := by
  cases changed with
  | attachments changed => exact ⟨changed.isKept kept.attachments, kept.volumes⟩
  | volumes changed => exact ⟨kept.attachments, changed.isKept kept.volumes⟩

theorem Changed.isWithin (changed : before.Changed after) :
    before.knowledge.IsWithin after.knowledge := by
  cases changed with
  | attachments changed => exact ⟨changed.isPast, id⟩
  | volumes changed => exact ⟨id, changed.isPast⟩

theorem Answered.eq_of_noWrite (answered : Answered request before answer after)
    (noWrite : request.isWrite = false) : after = before := by
  cases request with
  | writeAttachment | writeStatus | writeVolume => contradiction
  | attachment | attachments | volume | volumes => exact answered.1
  | _ => exact answered

/-- What has been stored at some time stays known. -/
theorem Answered.isWithin (answered : Answered request before answer after) :
    before.knowledge.IsWithin after.knowledge := by
  cases request with
  | writeAttachment | writeStatus =>
      refine ⟨answered.2.isPast, ?_⟩
      intro volume isPast
      change after.volumes.IsPast volume
      rw [answered.1]
      exact isPast
  | writeVolume =>
      refine ⟨?_, answered.2.isPast⟩
      intro attachment isPast
      change after.attachments.IsPast attachment
      rw [answered.1]
      exact isPast
  | _ =>
      rw [answered.eq_of_noWrite rfl]
      exact ⟨id, id⟩

/-- Whether a write that a call may make keeps the name of the object. -/
theorem keepsName_of_callMayMake {known : Knowledge}
    (mayMake : reconciler.CallMayMake known request) : request.KeepsName := by
  rcases mayMake with mayMake | isVerdict
  · cases mayMake with
    | other noWrite => cases request <;> trivial
    | shield => exact Metadata.displayName_addFinalizer _ _
    | guard isKnown lacks nodeId => exact Reconciler.name_protectedAttachment _ nodeId
    | release | unguard | restate => trivial
  · cases request <;> trivial

theorem Answered.isKept (answered : Answered request before answer after)
    (keepsName : request.KeepsName) (kept : before.IsKept) : after.IsKept := by
  cases request with
  | writeAttachment =>
      refine ⟨answered.2.isKept kept.attachments fun _ _ => keepsName, ?_⟩
      rw [answered.1]
      exact kept.volumes
  | writeStatus =>
      refine ⟨answered.2.isKept kept.attachments fun _ named => named, ?_⟩
      rw [answered.1]
      exact kept.volumes
  | writeVolume =>
      refine ⟨?_, answered.2.isKept kept.volumes fun _ _ => keepsName⟩
      rw [answered.1]
      exact kept.attachments
  | _ =>
      rw [answered.eq_of_noWrite rfl]
      exact kept

/-- An answer tells only of objects that have been stored at some time. -/
theorem Answered.tells (answered : Answered request before answer after)
    (keepsName : request.KeepsName) (kept : before.IsKept) :
    after.knowledge.tells request answer := by
  cases request with
  | writeAttachment =>
      exact fun attachment isOk =>
        answered.2.isPast_answer kept.attachments (fun _ _ => keepsName) isOk
  | writeStatus =>
      exact fun attachment isOk =>
        answered.2.isPast_answer kept.attachments (fun _ named => named) isOk
  | writeVolume =>
      exact fun volume isOk => answered.2.isPast_answer kept.volumes (fun _ _ => keepsName) isOk
  | attachment name =>
      rcases answered with ⟨rfl, found⟩
      exact fun attachment same => kept.attachments.isPast (found attachment same)
  | volume name =>
      rcases answered with ⟨rfl, found⟩
      exact fun volume same => kept.volumes.isPast (found volume same)
  | attachments | volumes =>
      rcases answered with ⟨rfl, listed⟩
      exact listed
  | _ => trivial

end Annals

namespace Reconciler

variable (reconciler : Reconciler)

/-- Whether an answer to a request leaves everything alone that is not the reconciler's: a write
that is accepted makes an edit of the object that is stored, and nothing else changes. -/
def Frames : (request : Request) → Annals → request.Answer → Annals → Prop
  | .writeAttachment old _, before, answer, after =>
      before.attachments.Renewed old.name (AttachmentEdit reconciler.finalizer) answer
          after.attachments ∧
        after.volumes = before.volumes
  | .writeStatus old _, before, answer, after =>
      before.attachments.Renewed old.name (AttachmentEdit reconciler.finalizer) answer
          after.attachments ∧
        after.volumes = before.volumes
  | .writeVolume old _, before, answer, after =>
      before.volumes.Renewed old.name (VolumeEdit reconciler.finalizer) answer after.volumes ∧
        after.attachments = before.attachments
  | _, before, _, after => after = before

/-- Calls begin at any time, on objects in any version that has been stored, and run beside each
other, and others change the cluster too. -/
def alongside : Program.Rules Request Request.Answer Errand (Except Failure Unit) Annals where
  begins errand program system after :=
    after = system.shared ∧ errand.IsKnown system.shared.knowledge ∧
      program = (errand.work reconciler).run
  makes _ _ annals := annals
  answers _ request before answer after := Annals.Answered request before answer after
  changes before after := before.Changed after

/-- Whether what is left of a program makes only edits of objects that have been stored at some
time, also once more of them have been. -/
def Abides (annals : Annals) (program : Requests (Except Failure Unit)) : Prop :=
  ∀ known, annals.knowledge.IsWithin known →
    program.Heeds (reconciler.CallMayMake known) known.tells fun _ => True

variable {reconciler} {before after : Annals} {request : Request} {answer : request.Answer}

theorem Abides.mono {program : Requests (Except Failure Unit)}
    (abides : reconciler.Abides before program)
    (within : before.knowledge.IsWithin after.knowledge) : reconciler.Abides after program := by
  intro known afterWithin
  exact abides known
    ⟨fun isPast => afterWithin.attachments (within.attachments isPast),
      fun isPast => afterWithin.volumes (within.volumes isPast)⟩

theorem Errand.abides {errand : Errand} (isKnown : errand.IsKnown before.knowledge) :
    reconciler.Abides before (errand.work reconciler).run := by
  intro known within
  have isKnown : errand.IsKnown known := by
    cases errand with
    | attachment given => exact within.attachments isKnown
    | volume given => exact within.volumes isKnown
    | everything => trivial
  exact Program.Heeds.mono (Errand.heeds isKnown) (fun _ => id) (fun _ _ => id) fun _ _ => trivial

/-- What a program that abides requests next. -/
theorem Abides.callMayMake {next : request.Answer → Requests (Except Failure Unit)}
    (abides : reconciler.Abides before (.ask request next)) :
    reconciler.CallMayMake before.knowledge request :=
  (abides before.knowledge ⟨id, id⟩).1

/-- A program that abides goes on to abide after an answer. -/
theorem Abides.answered {next : request.Answer → Requests (Except Failure Unit)}
    (abides : reconciler.Abides before (.ask request next)) (kept : before.IsKept)
    (answered : Annals.Answered request before answer after) :
    reconciler.Abides after (next answer) := by
  intro known within
  have tells := answered.tells (Annals.keepsName_of_callMayMake abides.callMayMake) kept
  exact ((abides.mono answered.isWithin) known within).2 answer (within.tells tells)

/-- A request that a call may make is answered within its frame. -/
theorem CallMayMake.frames (mayMake : reconciler.CallMayMake before.knowledge request)
    (kept : before.IsKept) (answered : Annals.Answered request before answer after) :
    reconciler.Frames request before answer after := by
  rcases mayMake with mayMake | isVerdict
  · cases mayMake with
    | other noWrite =>
        cases request with
        | writeAttachment | writeStatus | writeVolume => contradiction
        | attachment | attachments | volume | volumes => exact answered.1
        | _ => exact answered
    | shield isKnown lacks =>
        exact ⟨answered.2.renewed kept.volumes isKnown (volumeEdit_shield lacks), answered.1⟩
    | release isKnown =>
        exact ⟨answered.2.renewed kept.volumes isKnown fun version => .released version,
          answered.1⟩
    | guard isKnown lacks nodeId =>
        exact ⟨answered.2.renewed kept.attachments isKnown (attachmentEdit_guard lacks nodeId),
          answered.1⟩
    | unguard isKnown =>
        exact ⟨answered.2.renewed kept.attachments isKnown fun version => .unguarded version,
          answered.1⟩
    | restate isKnown restates =>
        exact ⟨answered.2.renewed kept.attachments isKnown fun version =>
          .restated restates version, answered.1⟩
  · cases request with
    | retry | forget => exact answered
    | _ => contradiction

/-- What keeps the frame while calls run beside each other. -/
def alongsideUpkeep (reconciler : Reconciler) :
    Program.Upkeep reconciler.alongside
      (Program.OwnMove : Requests (Except Failure Unit) → _) where
  valid := Annals.IsKept
  fits _ program annals := reconciler.Abides annals program
  apart _ _ := True
  apart_symm _ := trivial
  begins := by
    rintro errand program system later ⟨rfl, isKnown, rfl⟩ kept
    exact ⟨kept, fun _ _ => trivial, ⟨_, Program.follows_own _, Errand.abides isKnown⟩,
      fun _ _ _ abides => abides⟩
  makes := by
    intro label stage request later annals _ kept abides
    exact ⟨kept, abides, fun _ _ _ abidesOther => abidesOther⟩
  answers := by
    rintro label _ request later before answer after rfl answered kept abides
    have keepsName := Annals.keepsName_of_callMayMake abides.callMayMake
    exact ⟨answered.isKept keepsName kept, abides.answered kept answered,
      fun _ _ _ abidesOther => abidesOther.mono answered.isWithin⟩
  changes := by
    rintro before after changed kept
    exact ⟨changed.isKept kept, fun _ _ abides => abides.mono changed.isWithin⟩

/-- Whichever calls run beside each other, and whatever others write and drop meanwhile: each write
of a call that is accepted makes an edit of the object that is stored just before it, whichever
version of that object the call has seen, and no request changes anything else. -/
theorem answer_frames {initial : Program.System Request Request.Answer Errand
      (Except Failure Unit) Annals}
    {before after : List (Program.Call Request Request.Answer Errand (Except Failure Unit))}
    {annals later : Annals} {errand : Errand} {isMade : Bool} {request : Request}
    {next : request.Answer → Requests (Except Failure Unit)} {answer : request.Answer}
    (reaches : Program.Reaches reconciler.alongside initial
      ⟨annals, before ++ ⟨errand, isMade, .ask request next⟩ :: after⟩)
    (noCalls : initial.calls = []) (kept : initial.shared.IsKept)
    (answered : Annals.Answered request annals answer later) :
    reconciler.Frames request annals answer later := by
  have holds := reconciler.alongsideUpkeep.holds_of_reaches reaches noCalls kept
  rcases holds.follows _ (List.mem_append_right _ List.mem_cons_self) with
    ⟨_, ⟨_, rfl, _⟩, abides⟩
  exact (Abides.callMayMake abides).frames holds.valid answered

open Simulation

/-- The attachment and the volume of the small cluster, each in its only version. -/
def smallAnnals : Annals := ⟨.single smallAttachment, .single smallVolume⟩

/-- The volume of the small cluster with the finalizer. -/
def shieldedVolume : PersistentVolume :=
  { smallVolume with metadata := smallVolume.metadata.addFinalizer smallReconciler.finalizer }

/-- The first write of a sync of the small attachment, if it is accepted. -/
theorem answer_frames_of_shield : ∃ next,
    Program.Reaches smallReconciler.alongside ⟨smallAnnals, []⟩
      ⟨smallAnnals, [⟨.attachment smallAttachment, true,
        .ask (.writeVolume smallVolume shieldedVolume) next⟩]⟩ ∧
      smallReconciler.Frames (.writeVolume smallVolume shieldedVolume) smallAnnals
        (.ok (Versioned.stamped shieldedVolume "2"))
        { smallAnnals with
          volumes := smallAnnals.volumes.store (Versioned.stamped shieldedVolume "2") } := by
  have shape : ∃ (lookUp : Option PersistentVolume → _) (next : Except Failure _ → _),
      ((Errand.attachment smallAttachment).work smallReconciler).run =
          .ask (.volume "pv-1") lookUp ∧
        lookUp (some smallVolume) = .ask (.writeVolume smallVolume shieldedVolume) next :=
    ⟨_, _, rfl, rfl⟩
  rcases shape with ⟨lookUp, next, starts, goesOn⟩
  have begins : Program.Step smallReconciler.alongside ⟨smallAnnals, []⟩
      ⟨smallAnnals, [⟨.attachment smallAttachment, false, .ask (.volume "pv-1") lookUp⟩]⟩ :=
    .begin ⟨rfl, show smallAttachment ∈ [smallAttachment] from List.mem_singleton_self _,
      starts.symm⟩
  have found : Annals.Answered (.volume "pv-1") smallAnnals (some smallVolume) smallAnnals := by
    refine ⟨rfl, ?_⟩
    rintro volume ⟨⟩
    exact show smallVolume ∈ [smallVolume] from List.mem_singleton_self _
  have told : Program.Step smallReconciler.alongside
      ⟨smallAnnals, [⟨.attachment smallAttachment, true, .ask (.volume "pv-1") lookUp⟩]⟩
      ⟨smallAnnals, [⟨.attachment smallAttachment, false, lookUp (some smallVolume)⟩]⟩ :=
    .answer [] [] found
  rw [goesOn] at told
  have reaches : Program.Reaches smallReconciler.alongside ⟨smallAnnals, []⟩
      ⟨smallAnnals, [] ++ ⟨.attachment smallAttachment, true,
        .ask (.writeVolume smallVolume shieldedVolume) next⟩ :: []⟩ :=
    .tail (.tail (.tail (.single begins) (.make [] [])) told) (.make [] [])
  have fresh : Versioned.version (Versioned.stamped shieldedVolume "2") ∉
      (smallAnnals.volumes.past "pv-1").map Versioned.version := by decide
  refine ⟨next, reaches, ?_⟩
  exact answer_frames reaches rfl ⟨Chronicle.single_isKept _, Chronicle.single_isKept _⟩
    ⟨rfl, .accepted rfl rfl (Chronicle.gains_store fresh)⟩

end Reconciler

end VolumeAttacher.Reconcile
