import VolumeAttacher.Proofs.Reconcile.Frame
import VolumeAttacher.Proofs.Reconcile.Survey

/-!
# Drivers that share a cluster

Several reconcilers, each for a driver of its own, work in one cluster, in calls that run one after
another or beside each other. An attachment is addressed to one driver, and no other reconciler
writes it or calls its own driver for it. A volume is another matter: it may carry the finalizers of
several drivers. A reconciler takes off its own one only. But the finalizer is named after the
sanitized name of the driver, and so two drivers may have the same one. Then the work on a volume
takes the finalizer off that another reconciler has put on.
-/

namespace VolumeAttacher.Reconcile

/-- Whether a request asks the driver to publish or to unpublish a volume. -/
def Request.isService : Request → Bool
  | call (.publish _) | call (.unpublish _) => true
  | _ => false

/-- Whether the answer to a write tells of an attachment with the specification of the old one. -/
def Request.KeepsSpec : (request : Request) → request.Answer → Prop
  | writeAttachment old _, answer => ∀ stored, answer = .ok stored → stored.spec = old.spec
  | writeStatus old _, answer => ∀ stored, answer = .ok stored → stored.spec = old.spec
  | _, _ => True

namespace Reconciler

variable (reconciler : Reconciler)

/-- Whether a request of a call is the business of the reconciler: it writes attachments of the
driver, and leaves their specification as it is, it puts its own finalizer on volumes, takes it off
the volume that the call is about, and calls the driver for the attachment that the call is
about. -/
def Minds (errand : Errand) : Request → Prop
  | .writeAttachment old new | .writeStatus old new =>
      reconciler.isAddressee old ∧ new.spec = old.spec
  | .writeVolume old new =>
      new = { old with metadata := old.metadata.addFinalizer reconciler.finalizer } ∨
        errand = .volume old ∧
          new = { old with metadata := old.metadata.removeFinalizer reconciler.finalizer }
  | .call (.publish _) | .call (.unpublish _) =>
      ∃ given, errand = .attachment given ∧ reconciler.isAddressee given
  | _ => True

variable {reconciler} {errand : Errand}

theorem minds_of_isLook {request : Request} (isLook : request.isLook) :
    reconciler.Minds errand request := by
  cases request with
  | writeAttachment | writeStatus | writeVolume => contradiction
  | call call =>
      cases call with
      | publish | unpublish => contradiction
      | list => trivial
  | _ => trivial

theorem isAddressee_congr {attachment other : VolumeAttachment}
    (same : attachment.spec = other.spec) :
    reconciler.isAddressee attachment = reconciler.isAddressee other := by
  simp only [isAddressee, same]

def business (reconciler : Reconciler) (errand : Errand) : reconciler.Remit where
  may := reconciler.Minds errand
  told := Request.KeepsSpec
  attachments attachment := reconciler.isAddressee attachment
  volumes _ := True
  glance isGlance := minds_of_isLook (Bool.and_eq_true_iff.mp isGlance).1
  shield _ _ := .inl rfl
  guard isAddressee _ nodeId := ⟨isAddressee, spec_protectedAttachment _ nodeId⟩
  unguard isAddressee := ⟨isAddressee, rfl⟩
  restate isAddressee _ := ⟨isAddressee, rfl⟩
  found _ := trivial
  listed _ _ _ isAddressee := isAddressee
  guarded isAddressee keepsSpec := (isAddressee_congr (keepsSpec _ rfl)).trans isAddressee
  restated isAddressee keepsSpec := (isAddressee_congr (keepsSpec _ rfl)).trans isAddressee

/-- Every call makes only requests that are the business of the reconciler. -/
theorem Errand.minds (errand : Errand) :
    (errand.work reconciler).Heeds (reconciler.Minds errand) Request.KeepsSpec
      fun _ => True := by
  have covers : (reconciler.business errand).Covers errand := by
    cases errand with
    | attachment given =>
        intro isAddressee
        refine ⟨isAddressee, ?_⟩
        intro call
        cases call with
        | publish | unpublish => exact ⟨given, rfl, isAddressee⟩
        | list => trivial
    | volume given => exact .inr ⟨rfl, rfl⟩
    | everything => trivial
  apply covers.heeds.mono _ (fun _ _ => id) fun _ => id
  rintro request (minds | isVerdict)
  · exact minds
  · cases request with
    | retry | forget => trivial
    | _ => contradiction

variable {request : Request} {annals later : Annals} {answer : request.Answer}

/-- The specification that is written is that of the stored attachment, which is the old one. -/
theorem Minds.keepsSpec (minds : reconciler.Minds errand request)
    (isOfKnown : request.IsOfKnown annals.knowledge) (kept : annals.IsKept)
    (answered : Annals.Answered request annals answer later) : request.KeepsSpec answer := by
  cases request with
  | writeAttachment old new =>
      intro stored isOk
      rcases answered.2.eq_stamped kept.attachments isOfKnown isOk with ⟨version, rfl⟩
      exact minds.2
  | writeStatus old new =>
      intro stored isOk
      rcases answered.2.eq_stamped kept.attachments isOfKnown isOk with ⟨version, rfl⟩
      rfl
  | _ => trivial

/-- Whether a request of a call leaves alone what is another reconciler's, however it is
answered. -/
structure LeavesAlone (reconciler : Reconciler) (errand : Errand) (other : Reconciler)
    (request : Request) (annals : Annals) : Prop where
  /-- No attachment that is addressed to the other driver is written. -/
  unwritten : ∀ old new, request = .writeAttachment old new ∨ request = .writeStatus old new →
    ¬other.isAddressee old ∧ ¬other.isAddressee new
  /-- The driver is called only in the work on an attachment that is not the other one's. -/
  uncalled : request.isService → ∃ given, errand = .attachment given ∧ ¬other.isAddressee given
  /-- The stored attachments that are addressed to the other driver stay as they are. -/
  attachments : ∀ {answer later}, Annals.Answered request annals answer later →
    ∀ {name attachment}, Table.find? annals.attachments.objects name = some attachment →
      other.isAddressee attachment →
      Table.find? later.attachments.objects name = some attachment
  /-- A stored volume keeps the finalizer of the other reconciler. But if it is that of this one
  too, the work on the volume may take it off. -/
  volumes : ∀ {answer later}, Annals.Answered request annals answer later →
    ∀ {name volume}, Table.find? annals.volumes.objects name = some volume →
      volume.metadata.hasFinalizer other.finalizer →
      (∃ kept, Table.find? later.volumes.objects name = some kept ∧
        kept.metadata.hasFinalizer other.finalizer) ∨
      other.finalizer = reconciler.finalizer ∧ errand = .volume volume

variable {other : Reconciler}

theorem not_isAddressee {attachment : VolumeAttachment}
    (different : reconciler.driver ≠ other.driver)
    (isAddressee : reconciler.isAddressee attachment) : ¬other.isAddressee attachment := by
  simp only [Reconciler.isAddressee, decide_eq_true_eq] at isAddressee ⊢
  rw [isAddressee]
  exact different

theorem Minds.find?_attachments (minds : reconciler.Minds errand request)
    (isOfKnown : request.IsOfKnown annals.knowledge) (kept : annals.IsKept)
    (answered : Annals.Answered request annals answer later) {name : String}
    {attachment : VolumeAttachment}
    (found : Table.find? annals.attachments.objects name = some attachment)
    (isForeign : ¬reconciler.isAddressee attachment) :
    Table.find? later.attachments.objects name = some attachment := by
  cases request with
  | writeAttachment | writeStatus =>
      rcases answered.2.find?_or_eq kept.attachments isOfKnown found with same | ⟨rfl, _⟩
      · exact same
      · exact absurd minds.1 isForeign
  | writeVolume =>
      rw [answered.1]
      exact found
  | _ =>
      rw [answered.eq_of_noWrite rfl]
      exact found

/-- Whether a finalizer is another one's cannot be told if both are the same. -/
theorem Minds.find?_volumes (minds : reconciler.Minds errand request)
    (isOfKnown : request.IsOfKnown annals.knowledge) (kept : annals.IsKept)
    (answered : Annals.Answered request annals answer later) {name finalizer : String}
    {volume : PersistentVolume}
    (found : Table.find? annals.volumes.objects name = some volume)
    (carries : volume.metadata.hasFinalizer finalizer) :
    (∃ kept, Table.find? later.volumes.objects name = some kept ∧
      kept.metadata.hasFinalizer finalizer) ∨
    finalizer = reconciler.finalizer ∧ errand = .volume volume := by
  cases request with
  | writeVolume old new =>
      rcases answered.2.find?_or_eq kept.volumes isOfKnown found with same | ⟨rfl, version, stores⟩
      · exact .inl ⟨volume, same, carries⟩
      have stays (newCarries : new.metadata.hasFinalizer finalizer) : ∃ kept,
          Table.find? later.volumes.objects name = some kept ∧
            kept.metadata.hasFinalizer finalizer :=
        ⟨_, stores.find?_eq newCarries, newCarries⟩
      rcases minds with rfl | ⟨rfl, rfl⟩
      · exact .inl (stays (Metadata.hasFinalizer_addFinalizer_of_hasFinalizer _ _ carries))
      · by_cases same : finalizer = reconciler.finalizer
        · exact .inr ⟨same, rfl⟩
        · apply Or.inl
          apply stays
          rw [Metadata.hasFinalizer_removeFinalizer_of_ne _ _ same]
          exact carries
  | writeAttachment | writeStatus =>
      rw [answered.1]
      exact .inl ⟨volume, found, carries⟩
  | _ =>
      rw [answered.eq_of_noWrite rfl]
      exact .inl ⟨volume, found, carries⟩

theorem Minds.leavesAlone (minds : reconciler.Minds errand request)
    (isOfKnown : request.IsOfKnown annals.knowledge) (kept : annals.IsKept)
    (different : reconciler.driver ≠ other.driver) :
    LeavesAlone reconciler errand other request annals where
  unwritten := by
    have spared {old new : VolumeAttachment}
        (minds : reconciler.isAddressee old ∧ new.spec = old.spec) :
        ¬other.isAddressee old ∧ ¬other.isAddressee new := by
      have oldSpared := not_isAddressee different minds.1
      exact ⟨oldSpared, (isAddressee_congr minds.2).symm ▸ oldSpared⟩
    rintro old new (rfl | rfl)
    · exact spared minds
    · exact spared minds
  uncalled := by
    intro isService
    have isOwn : ∃ given, errand = .attachment given ∧ reconciler.isAddressee given := by
      cases request with
      | call call =>
          cases call with
          | publish | unpublish => exact minds
          | list => contradiction
      | _ => contradiction
    rcases isOwn with ⟨given, same, isAddressee⟩
    exact ⟨given, same, not_isAddressee different isAddressee⟩
  attachments answered name attachment found isOther := by
    apply minds.find?_attachments isOfKnown kept answered found
    intro isAddressee
    exact not_isAddressee different isAddressee isOther
  volumes answered name volume found carries :=
    minds.find?_volumes isOfKnown kept answered found carries

/-- Calls of any reconcilers begin at any time, on objects in any version that has been stored, and
run one after another or beside each other, and others change the cluster too. -/
def sharing : Program.Rules Request Request.Answer (Reconciler × Errand) (Except Failure Unit)
    Annals where
  begins label program system after :=
    after = system.shared ∧ label.2.IsKnown system.shared.knowledge ∧
      program = (label.2.work label.1).run
  makes _ _ annals := annals
  answers _ request before answer after := Annals.Answered request before answer after
  changes before after := before.Changed after

/-- Whether what is left of a call edits objects that have been stored at some time, and minds the
business of its reconciler. -/
def Behaves (label : Reconciler × Errand) (annals : Annals)
    (program : Requests (Except Failure Unit)) : Prop :=
  label.1.Abides annals program ∧
    program.Heeds (label.1.Minds label.2) Request.KeepsSpec fun _ => True

def sharingUpkeep :
    Program.Upkeep sharing (Program.OwnMove : Requests (Except Failure Unit) → _) where
  valid := Annals.IsKept
  fits label program annals := Behaves label annals program
  apart _ _ := True
  apart_symm _ := trivial
  begins := by
    rintro ⟨reconciler, errand⟩ program system later ⟨rfl, isKnown, rfl⟩ kept
    have behaves : Behaves (reconciler, errand) system.shared (errand.work reconciler).run :=
      ⟨Errand.abides isKnown,
        Program.Heeds.mono errand.minds (fun _ => id) (fun _ _ => id) fun _ _ => trivial⟩
    exact ⟨kept, fun _ _ => trivial, ⟨_, Program.follows_own _, behaves⟩,
      fun _ _ _ behavesOther => behavesOther⟩
  makes := by
    intro label stage request later annals _ kept behaves
    exact ⟨kept, behaves, fun _ _ _ behavesOther => behavesOther⟩
  answers := by
    rintro label _ request later before answer after rfl answered kept ⟨abides, minds, rest⟩
    have keepsName := Annals.keepsName_of_callMayMake abides.callMayMake
    have keepsSpec := minds.keepsSpec abides.callMayMake.isOfKnown kept answered
    exact ⟨answered.isKept keepsName kept, ⟨abides.answered kept answered, rest answer keepsSpec⟩,
      fun _ _ _ behavesOther => ⟨behavesOther.1.mono answered.isWithin, behavesOther.2⟩⟩
  changes := by
    rintro before after changed kept
    exact ⟨changed.isKept kept,
      fun _ _ behaves => ⟨behaves.1.mono changed.isWithin, behaves.2⟩⟩

/-- Whichever calls of whichever reconcilers run one after another or beside each other, and
whatever others write and drop meanwhile: each request of a call leaves alone what is another
reconciler's if their drivers have different names, but for a finalizer that both have. -/
theorem request_leavesAlone {initial : Program.System Request Request.Answer
      (Reconciler × Errand) (Except Failure Unit) Annals}
    {before after : List (Program.Call Request Request.Answer (Reconciler × Errand)
      (Except Failure Unit))}
    {annals : Annals} {reconciler other : Reconciler} {errand : Errand} {isMade : Bool}
    {request : Request} {next : request.Answer → Requests (Except Failure Unit)}
    (reaches : Program.Reaches sharing initial
      ⟨annals, before ++ ⟨(reconciler, errand), isMade, .ask request next⟩ :: after⟩)
    (noCalls : initial.calls = []) (kept : initial.shared.IsKept)
    (different : reconciler.driver ≠ other.driver) :
    LeavesAlone reconciler errand other request annals := by
  have holds := sharingUpkeep.holds_of_reaches reaches noCalls kept
  rcases holds.follows _ (List.mem_append_right _ List.mem_cons_self) with
    ⟨_, ⟨_, rfl, _⟩, abides, minds, _⟩
  exact minds.leavesAlone (Abides.callMayMake abides).isOfKnown holds.valid different

open Simulation

/-- A reconciler for another driver, whose name is that of the small one once sanitized. -/
def dashedReconciler : Reconciler where
  driver := "csi-example-com"

/-- Answers a request from what is stored. Volumes are written, attachments are not. -/
def shieldingReply : (request : Request) → Annals → request.Answer × Annals
  | .writeVolume old new, annals =>
      let (answer, volumes) := annals.volumes.write old (fun _ => new) "2"
      (answer, { annals with volumes })
  | .writeAttachment old _, annals => (.error (.conflict old.name), annals)
  | .writeStatus old _, annals => (.error (.conflict old.name), annals)
  | request, annals =>
      let reply := Watch.reply ⟨annals, [], .blank, []⟩ request
      (reply.1, annals)

theorem shieldingReply_answered (request : Request) (annals : Annals) :
    Annals.Answered request annals (shieldingReply request annals).1
      (shieldingReply request annals).2 := by
  have answered := (Watch.reply_answered ⟨annals, [], .blank, []⟩ request).1
  cases request with
  | writeVolume old new => exact ⟨rfl, Chronicle.write_written _ _ _ _⟩
  | writeAttachment | writeStatus => exact ⟨rfl, .refused _⟩
  | attachment | attachments | volume | volumes => exact answered
  | call call => cases call <;> rfl
  | _ => rfl

/-- The small cluster after a sync of the attachment that ends because the attachment cannot be
written. -/
def sharedAnnals : Annals :=
  (((Errand.attachment smallAttachment).work smallReconciler).run.run shieldingReply smallAnnals).2

def sharedVolume : PersistentVolume :=
  Versioned.stamped shieldedVolume "2"

def bareVolume : PersistentVolume :=
  { sharedVolume with
    metadata := sharedVolume.metadata.removeFinalizer dashedReconciler.finalizer }

/-- After the sync of the small attachment, the reconciler for the other driver works on the volume
and is about to write it. -/
theorem reaches_release : ∃ next,
    Program.Reaches sharing ⟨smallAnnals, []⟩
      ⟨sharedAnnals, [⟨(dashedReconciler, .volume sharedVolume), true,
        .ask (.writeVolume sharedVolume bareVolume) next⟩]⟩ := by
  have shape : ∃ (list : List VolumeAttachment → _) (next : Except Failure _ → _),
      ((Errand.volume sharedVolume).work dashedReconciler).run = .ask .attachments list ∧
        list [smallAttachment] = .ask (.writeVolume sharedVolume bareVolume) next :=
    ⟨_, _, rfl, rfl⟩
  rcases shape with ⟨list, next, starts, goesOn⟩
  have attaching : Program.Step sharing ⟨smallAnnals, []⟩
      ⟨smallAnnals, [⟨(smallReconciler, .attachment smallAttachment), false,
        ((Errand.attachment smallAttachment).work smallReconciler).run⟩]⟩ :=
    .begin ⟨rfl, show smallAttachment ∈ [smallAttachment] from List.mem_singleton_self _, rfl⟩
  have attached : Program.Reaches sharing
      ⟨smallAnnals, [⟨(smallReconciler, .attachment smallAttachment), false,
        ((Errand.attachment smallAttachment).work smallReconciler).run⟩]⟩ ⟨sharedAnnals, []⟩ :=
    Program.reaches_run _ shieldingReply_answered _ _
  have isPast : sharedAnnals.volumes.IsPast sharedVolume := by
    change sharedVolume ∈ sharedAnnals.volumes.past "pv-1"
    decide +kernel
  have begins : Program.Step sharing ⟨sharedAnnals, []⟩
      ⟨sharedAnnals, [⟨(dashedReconciler, .volume sharedVolume), false,
        .ask .attachments list⟩]⟩ :=
    .begin ⟨rfl, isPast, starts.symm⟩
  have listed : Annals.Answered .attachments sharedAnnals [smallAttachment] sharedAnnals := by
    refine ⟨rfl, ?_⟩
    intro attachment attachmentMem
    rw [List.mem_singleton.mp attachmentMem]
    exact show smallAttachment ∈ [smallAttachment] from List.mem_singleton_self _
  have told : Program.Step sharing
      ⟨sharedAnnals, [⟨(dashedReconciler, .volume sharedVolume), true, .ask .attachments list⟩]⟩
      ⟨sharedAnnals, [⟨(dashedReconciler, .volume sharedVolume), false,
        list [smallAttachment]⟩]⟩ :=
    .answer [] [] listed
  rw [goesOn] at told
  exact ⟨next, .tail (.tail (.tail (.tail (.head attaching attached) begins) (.make [] [])) told)
    (.make [] [])⟩

/-- What the write of that work leaves alone. -/
theorem request_leavesAlone_of_release : ∃ next,
    Program.Reaches sharing ⟨smallAnnals, []⟩
      ⟨sharedAnnals, [⟨(dashedReconciler, .volume sharedVolume), true,
        .ask (.writeVolume sharedVolume bareVolume) next⟩]⟩ ∧
      dashedReconciler.driver ≠ smallReconciler.driver ∧
      LeavesAlone dashedReconciler (.volume sharedVolume) smallReconciler
        (.writeVolume sharedVolume bareVolume) sharedAnnals := by
  rcases reaches_release with ⟨next, reaches⟩
  have different : dashedReconciler.driver ≠ smallReconciler.driver := by decide
  have kept : smallAnnals.IsKept := ⟨Chronicle.single_isKept _, Chronicle.single_isKept _⟩
  rw [← List.nil_append (List.cons _ _)] at reaches
  exact ⟨next, reaches, different, request_leavesAlone reaches rfl kept different⟩

/-- But the write takes off the finalizer that the sync of the small attachment has put on a volume
whose source names the small driver. -/
theorem release_takes_shared_finalizer : ∃ next later,
    Program.Reaches sharing ⟨smallAnnals, []⟩
      ⟨sharedAnnals, [⟨(dashedReconciler, .volume sharedVolume), true,
        .ask (.writeVolume sharedVolume bareVolume) next⟩]⟩ ∧
      dashedReconciler.driver ≠ smallReconciler.driver ∧
      (sharedVolume.csiSource?.any fun source => source.driver = smallReconciler.driver) ∧
      Table.find? smallAnnals.volumes.objects "pv-1" = some smallVolume ∧
      smallVolume.metadata.hasFinalizer smallReconciler.finalizer = false ∧
      Table.find? sharedAnnals.volumes.objects "pv-1" = some sharedVolume ∧
      sharedVolume.metadata.hasFinalizer smallReconciler.finalizer ∧
      Annals.Answered (.writeVolume sharedVolume bareVolume) sharedAnnals
        (.ok (Versioned.stamped bareVolume "3")) later ∧
      Table.find? later.volumes.objects "pv-1" = some (Versioned.stamped bareVolume "3") ∧
      (Versioned.stamped bareVolume "3").metadata.hasFinalizer smallReconciler.finalizer =
        false := by
  rcases reaches_release with ⟨next, reaches⟩
  have found : Table.find? sharedAnnals.volumes.objects "pv-1" = some sharedVolume := by
    decide +kernel
  have fresh : Versioned.version (Versioned.stamped bareVolume "3") ∉
      (sharedAnnals.volumes.past "pv-1").map Versioned.version := by decide +kernel
  refine ⟨next, { sharedAnnals with
      volumes := sharedAnnals.volumes.store (Versioned.stamped bareVolume "3") },
    reaches, by decide, by decide, rfl, by decide, found, by decide +kernel, ?_, ?_, ?_⟩
  · exact ⟨rfl, .accepted found rfl (Chronicle.gains_store fresh)⟩
  · exact (Table.find?_insert _ _ _ _).trans (if_pos rfl)
  · decide +kernel

end Reconciler

end VolumeAttacher.Reconcile
