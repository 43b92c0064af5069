import VolumeAttacher.Proofs.Reconcile.Fates
import VolumeAttacher.Proofs.Reconcile.Marks

/-!
# When the driver is asked to attach a volume

The work on an attachment asks the driver to attach its volume exactly if a dozen conditions hold,
which are read off what is stored and the answers to the writes of the finalizers. It asks once
then, after the finalizers have been stored, and with the data of the volume.
-/

namespace VolumeAttacher.Reconcile

variable {circumstances : Circumstances} {reconciler : Reconciler} {before after site : Site}
  {attachment copy : VolumeAttachment} {volume : PersistentVolume} {volumeName : String}
  {log marks : List Deed} {nodeId : Except Failure String}

def Deed.isAttach (deed : Deed) : Bool :=
  deed.request.isAttach

/-- What an attach call is about. -/
structure Particulars where
  volumeName : String
  volume : PersistentVolume
  source : CsiSource
  nodeId : String
  secrets : Table String

/-- Whether a finalizer has been put on a volume by a write that was accepted. -/
def PutsOnVolume (finalizer : String) (volume : PersistentVolume) (log : List Deed) : Prop :=
  ∃ (deed : Deed) (new stored : PersistentVolume), deed ∈ log ∧
    deed = ⟨deed.before, .make (.writeVolume volume new),
      (.ok stored : Except Failure PersistentVolume), deed.after⟩ ∧
    new.metadata.hasFinalizer finalizer = true

/-- Whether a finalizer has been put on an attachment by a write that was accepted. -/
def PutsOnAttachment (finalizer : String) (attachment : VolumeAttachment) (log : List Deed) :
    Prop :=
  ∃ (deed : Deed) (new stored : VolumeAttachment), deed ∈ log ∧
    deed = ⟨deed.before, .make (.writeAttachment attachment new),
      (.ok stored : Except Failure VolumeAttachment), deed.after⟩ ∧
    new.metadata.hasFinalizer finalizer = true

/-- Whether all holds on which it depends that the driver is asked to attach a volume: of the
reconciler, of what is stored in the beginning, and of the writes in the log. -/
structure IsAttachable (reconciler : Reconciler) (attachment : VolumeAttachment) (before : Site)
    (log : List Deed) (particulars : Particulars) : Prop where
  ready : reconciler.ready = true
  addressee : attachment.spec.attacher = reconciler.driver
  notDeleting : attachment.metadata.deletionTimestamp = none
  named : attachment.spec.source.persistentVolumeName = some particulars.volumeName
  nonempty : particulars.volumeName ≠ ""
  found : Table.find? before.volumes particulars.volumeName = some particulars.volume
  owned : particulars.volume.isOwnedBy reconciler.driver = true
  volumeNotDeleting : particulars.volume.metadata.deletionTimestamp = none
  shielded : particulars.volume.metadata.hasFinalizer reconciler.finalizer = true ∨
    PutsOnVolume reconciler.finalizer particulars.volume log
  guarded : attachment.metadata.hasFinalizer reconciler.finalizer = true ∨
    PutsOnAttachment reconciler.finalizer attachment log
  notAttached : attachment.isAttached = false
  node : before.backdrop.nodeId reconciler attachment.spec.nodeName none = .ok particulars.nodeId
  source : particulars.volume.csiSource? = some particulars.source
  accessModes : "ReadWriteMany" ∈ particulars.volume.accessModes ∨
    Xor ("ReadOnlyMany" ∈ particulars.volume.accessModes)
      ("ReadWriteOnce" ∈ particulars.volume.accessModes)
  secrets : before.backdrop.secrets particulars.volume = .ok particulars.secrets

/-- Whether an attach call has the data of the volume. -/
structure IsWanted (reconciler : Reconciler) (particulars : Particulars)
    (wanted : Csi.AttachRequest) : Prop where
  volumeId : wanted.volumeId = particulars.source.volumeHandle
  nodeId : wanted.nodeId = particulars.nodeId
  readOnly : wanted.readOnly =
    (particulars.source.readOnly.getD false && reconciler.readonlyPublish)
  capability : particulars.volume.capability reconciler.defaultFileSystem = .ok wanted.capability
  volumeContext : wanted.volumeContext = particulars.source.volumeAttributes.getD []
  secrets : wanted.secrets = particulars.secrets

/-- Whether both finalizers are stored. That of an attachment is stored if the one that is worked on
is the stored one, or did not carry the finalizer. -/
structure BothStored (reconciler : Reconciler) (attachment : VolumeAttachment)
    (volumeName : String) (before site : Site) : Prop where
  volume : ∃ stored, Table.find? site.volumes volumeName = some stored ∧
    stored.metadata.hasFinalizer reconciler.finalizer = true
  attachment : Table.find? before.attachments attachment.name = some attachment ∨
      attachment.metadata.hasFinalizer reconciler.finalizer = false →
    ∃ stored, Table.find? site.attachments attachment.name = some stored ∧
      stored.metadata.hasFinalizer reconciler.finalizer = true

theorem capability_isOk_iff (defaultFileSystem : String) :
    (∃ capability, volume.capability defaultFileSystem = .ok capability) ↔
      "ReadWriteMany" ∈ volume.accessModes ∨
        Xor ("ReadOnlyMany" ∈ volume.accessModes) ("ReadWriteOnce" ∈ volume.accessModes) := by
  have isOk_iff : (∃ capability, volume.capability defaultFileSystem = .ok capability) ↔
      ∃ accessMode, volume.accessMode = .ok accessMode := by
    unfold PersistentVolume.capability
    cases volume.accessMode <;> simp [Except.map]
  rw [isOk_iff]
  unfold PersistentVolume.accessMode
  by_cases manyWrite : "ReadWriteMany" ∈ volume.accessModes
  · simp [manyWrite]
  · by_cases manyRead : "ReadOnlyMany" ∈ volume.accessModes <;>
      by_cases oneWrites : "ReadWriteOnce" ∈ volume.accessModes <;>
      simp [manyWrite, manyRead, oneWrites, Xor]

theorem Backdrop.attachRequest_eq_ok_iff {backdrop : Backdrop} {wanted : Csi.AttachRequest} :
    backdrop.attachRequest reconciler volume nodeId = .ok wanted ↔
      ∃ source, volume.csiSource? = some source ∧ source.volumeHandle = wanted.volumeId ∧
        nodeId = .ok wanted.nodeId ∧
        (source.readOnly.getD false && reconciler.readonlyPublish) = wanted.readOnly ∧
        volume.capability reconciler.defaultFileSystem = .ok wanted.capability ∧
        source.volumeAttributes.getD [] = wanted.volumeContext ∧
        backdrop.secrets volume = .ok wanted.secrets := by
  cases nodeId with
  | error failure => simp [attachRequest, bind, Except.bind]
  | ok id =>
      cases isSource : volume.csiSource? with
      | none =>
          simp [attachRequest, PersistentVolume.handle, isSource, mapError_error, bind, Except.bind]
      | some source =>
          have isHandle := handle_eq_ok isSource
          have isAttributes : volume.attributes = source.volumeAttributes.getD [] := by
            simp [PersistentVolume.attributes, isSource]
          cases isCapability : volume.capability reconciler.defaultFileSystem with
          | error fault =>
              simp [attachRequest, isHandle, isCapability, mapError_ok, mapError_error, bind,
                Except.bind]
          | ok capability =>
              cases isSecrets : backdrop.secrets volume with
              | error failure =>
                  simp [attachRequest, isHandle, isCapability, isSecrets, mapError_ok, bind,
                    Except.bind]
              | ok secrets =>
                  rcases wanted with ⟨_, _, _, _, _, _⟩
                  simp [attachRequest, isHandle, isAttributes, isCapability, isSecrets,
                    mapError_ok, bind, Except.bind, pure, Except.pure]

namespace Shields

theorem same (shields : Shields circumstances reconciler volume before marks after) :
    after.backdrop = before.backdrop ∧ after.attachments = before.attachments := by
  cases shields with
  | carried => exact ⟨rfl, rfl⟩
  | written _ answered =>
      rcases answered with ⟨volumes, rfl, _⟩
      exact ⟨rfl, rfl⟩

theorem marks_writeVolume (shields : Shields circumstances reconciler volume before marks after) :
    ∀ deed ∈ marks, ∃ new, deed.request = .make (.writeVolume volume new) := by
  cases shields with
  | carried => simp
  | written => simp

theorem putsOn (shields : Shields circumstances reconciler volume before marks after)
    (logged : ∀ deed ∈ marks, deed ∈ log) :
    volume.metadata.hasFinalizer reconciler.finalizer = true ∨
      PutsOnVolume reconciler.finalizer volume log := by
  cases shields with
  | carried carries => exact .inl carries
  | written lacks answered =>
      exact .inr ⟨_, _, _, logged _ (List.mem_singleton_self _), rfl,
        Metadata.hasFinalizer_addFinalizer _ _⟩

theorem stored (shields : Shields circumstances reconciler volume before marks after)
    (named : volume.name = volumeName)
    (found : Table.find? before.volumes volumeName = some volume) :
    ∃ stored, Table.find? after.volumes volumeName = some stored ∧
      stored.metadata.hasFinalizer reconciler.finalizer = true := by
  subst named
  cases shields with
  | carried carries => exact ⟨volume, found, carries⟩
  | written lacks answered =>
      have carries := Metadata.hasFinalizer_addFinalizer volume.metadata reconciler.finalizer
      rcases answered.volume_cases found (Shelf.not_isFinished carries) with
        ⟨_, same, _⟩ | ⟨_, _, sets, _, rfl⟩
      · contradiction
      · exact ⟨_, sets.found, carries⟩

end Shields

namespace Guards

theorem same (guards : Guards circumstances reconciler attachment nodeId before marks copy after) :
    after.backdrop = before.backdrop ∧ after.volumes = before.volumes := by
  cases guards with
  | carried => exact ⟨rfl, rfl⟩
  | written _ answered =>
      rcases answered with ⟨attachments, rfl, _⟩
      exact ⟨rfl, rfl⟩

theorem putsOn (guards : Guards circumstances reconciler attachment nodeId before marks copy after)
    (logged : ∀ deed ∈ marks, deed ∈ log) :
    attachment.metadata.hasFinalizer reconciler.finalizer = true ∨
      PutsOnAttachment reconciler.finalizer attachment log := by
  cases guards with
  | carried carries => exact .inl carries
  | written lacks answered =>
      exact .inr ⟨_, _, _, logged _ (List.mem_singleton_self _), rfl,
        Reconciler.hasFinalizer_protectedAttachment _ _⟩

/-- What is written is computed from the attachment that is worked on. -/
theorem written_cases {stored : VolumeAttachment} (isCopy : before.IsCopy attachment)
    (answered : Site.Answered circumstances
      (.writeAttachment attachment (reconciler.protectedAttachment attachment nodeId)) before
      (.ok stored : Except Failure VolumeAttachment) after) :
    Table.find? after.attachments attachment.name = some stored ∧
      ∃ version, stored = Versioned.stamped
        { reconciler.protectedAttachment attachment nodeId with status := attachment.status }
        version := by
  rcases isCopy.stored_or_outdated with found | outdated
  · rcases answered.attachment_cases found with ⟨_, same, _⟩ | ⟨_, same, sets, isStamped⟩
    · contradiction
    · cases same
      rw [Shelf.not_isFinished (Reconciler.hasFinalizer_protectedAttachment _ _)] at sets
      exact ⟨sets.found, isStamped⟩
  · rcases (outdated.refuses_attachment answered).2 with ⟨_, same⟩
    contradiction

theorem isAttached (guards : Guards circumstances reconciler attachment nodeId before marks copy
      after) (isCopy : before.IsCopy attachment) : copy.isAttached = attachment.isAttached := by
  cases guards with
  | carried => rfl
  | written _ answered =>
      rcases (written_cases isCopy answered).2 with ⟨version, rfl⟩
      rfl

theorem stored (guards : Guards circumstances reconciler attachment nodeId before marks copy
      after) (isCopy : before.IsCopy attachment)
    (atHand : Table.find? before.attachments attachment.name = some attachment ∨
      attachment.metadata.hasFinalizer reconciler.finalizer = false) :
    ∃ stored, Table.find? after.attachments attachment.name = some stored ∧
      stored.metadata.hasFinalizer reconciler.finalizer = true := by
  cases guards with
  | carried carries =>
      rcases atHand with found | lacks
      · exact ⟨attachment, found, carries⟩
      · exact absurd (lacks.symm.trans carries) Bool.false_ne_true
  | written _ answered =>
      rcases written_cases isCopy answered with ⟨found, version, isStamped⟩
      refine ⟨copy, found, ?_⟩
      rw [isStamped]
      exact Reconciler.hasFinalizer_protectedAttachment attachment nodeId

end Guards

theorem Site.IsCopy.of_same (isCopy : before.IsCopy attachment)
    (same : site.attachments = before.attachments) : site.IsCopy attachment := by
  intro stored found
  rw [same] at found
  exact isCopy stored found

theorem filter_isAttach_marks (log : List Deed) :
    (log.filter Deed.isMark).filter Deed.isAttach = log.filter Deed.isAttach := by
  rw [List.filter_filter]
  apply List.filter_congr
  rintro ⟨_, instruction, answer, _⟩ _
  cases instruction with
  | attach wanted => rfl
  | make request => rfl

theorem PutsOnVolume.mem_marks {finalizer : String} (puts : PutsOnVolume finalizer volume log) :
    ∃ deed ∈ log.filter Deed.isMark, ∃ new, deed.request = .make (.writeVolume volume new) := by
  rcases puts with ⟨deed, new, stored, deedMem, isWrite, _⟩
  rw [isWrite] at deedMem
  exact ⟨_, List.mem_filter.mpr ⟨deedMem, rfl⟩, new, rfl⟩

theorem PutsOnAttachment.mem_marks {finalizer : String}
    (puts : PutsOnAttachment finalizer attachment log) :
    ∃ deed ∈ log.filter Deed.isMark,
      ∃ new, deed.request = .make (.writeAttachment attachment new) := by
  rcases puts with ⟨deed, new, stored, deedMem, isWrite, _⟩
  rw [isWrite] at deedMem
  exact ⟨_, List.mem_filter.mpr ⟨deedMem, rfl⟩, new, rfl⟩

theorem filter_isAttach_shieldMarks
    (shields : Shields circumstances reconciler volume before marks after) :
    marks.filter Deed.isAttach = [] := by
  cases shields <;> rfl

theorem filter_isAttach_guardMarks
    (guards : Guards circumstances reconciler attachment nodeId before marks copy after) :
    marks.filter Deed.isAttach = [] := by
  cases guards <;> rfl

/-- Whether the driver is not asked to attach the volume, since it cannot be attached. -/
def IsDeclined (reconciler : Reconciler) (attachment : VolumeAttachment) (before : Site)
    (log : List Deed) : Prop :=
  log.filter Deed.isAttach = [] ∧
    ∀ particulars, ¬ IsAttachable reconciler attachment before log particulars

/-- Whether the driver is asked once to attach the volume, which can be attached. -/
def IsAsked (reconciler : Reconciler) (attachment : VolumeAttachment) (before : Site)
    (log : List Deed) : Prop :=
  ∃ particulars deed wanted, log.filter Deed.isAttach = [deed] ∧ deed.request = .attach wanted ∧
    IsAttachable reconciler attachment before log particulars ∧
    IsWanted reconciler particulars wanted ∧
    BothStored reconciler attachment particulars.volumeName before deed.before

theorem volumeName?_eq_some_iff :
    attachment.volumeName? = some volumeName ↔
      attachment.spec.source.persistentVolumeName = some volumeName ∧ volumeName ≠ "" := by
  simp [VolumeAttachment.volumeName?, Option.filter_eq_some_iff]

theorem IsAttachable.engages {particulars : Particulars}
    (attachable : IsAttachable reconciler attachment before log particulars) :
    Engages reconciler attachment particulars.volumeName particulars.volume before where
  named := volumeName?_eq_some_iff.mpr ⟨attachable.named, attachable.nonempty⟩
  found := attachable.found
  owned := attachable.owned
  notDeleting := by simp [Metadata.isDeleting, attachable.volumeNotDeleting]

theorem Engages.volume_eq {otherName : String} {other : PersistentVolume}
    (engages : Engages reconciler attachment volumeName volume before)
    (engagesOther : Engages reconciler attachment otherName other before) : other = volume := by
  cases engages.named.symm.trans engagesOther.named
  exact Option.some.inj (engagesOther.found.symm.trans engages.found)

/-- What the volume of an attachment that can be attached is attached with. -/
theorem IsAttachable.attachRequest_eq {particulars : Particulars}
    (attachable : IsAttachable reconciler attachment before log particulars) :
    ∃ wanted, before.backdrop.attachRequest reconciler particulars.volume
      (before.backdrop.nodeId reconciler attachment.spec.nodeName none) = .ok wanted := by
  rcases (capability_isOk_iff reconciler.defaultFileSystem).mpr attachable.accessModes with
    ⟨capability, isCapability⟩
  let wanted : Csi.AttachRequest := {
    volumeId := particulars.source.volumeHandle
    nodeId := particulars.nodeId
    readOnly := particulars.source.readOnly.getD false && reconciler.readonlyPublish
    capability
    volumeContext := particulars.source.volumeAttributes.getD []
    secrets := particulars.secrets }
  exact ⟨wanted, Backdrop.attachRequest_eq_ok_iff.mpr ⟨particulars.source, attachable.source, rfl,
    attachable.node, rfl, isCapability, rfl, attachable.secrets⟩⟩

theorem AttachMarks.declined_or_asked (isNamed : before.IsNamed) (isCopy : before.IsCopy attachment)
    (ready : reconciler.ready = true) (addressee : reconciler.isAddressee attachment = true)
    (notDeleting : attachment.isDeleting = false)
    (attaches : AttachMarks circumstances reconciler attachment before (log.filter Deed.isMark)) :
    IsDeclined reconciler attachment before log ∨ IsAsked reconciler attachment before log := by
  have logged : ∀ deed ∈ log.filter Deed.isMark, deed ∈ log :=
    fun deed deedMem => (List.mem_filter.mp deedMem).1
  unfold IsDeclined IsAsked
  rw [← filter_isAttach_marks]
  generalize isMarks : log.filter Deed.isMark = marks at attaches logged
  cases attaches with
  | unengaged unengaged =>
      left
      refine ⟨rfl, ?_⟩
      intro particulars attachable
      exact unengaged _ _ attachable.engages
  | unshielded engages lacks =>
      left
      refine ⟨rfl, ?_⟩
      intro particulars attachable
      cases engages.volume_eq attachable.engages
      rcases attachable.shielded with carries | puts
      · exact absurd (lacks.symm.trans carries) Bool.false_ne_true
      · rcases puts.mem_marks with ⟨deed, deedMem, _⟩
        rw [isMarks] at deedMem
        contradiction
  | unguarded engages shields lacks =>
      left
      refine ⟨filter_isAttach_shieldMarks shields, ?_⟩
      intro particulars attachable
      rcases attachable.guarded with carries | puts
      · exact absurd (lacks.symm.trans carries) Bool.false_ne_true
      · rcases puts.mem_marks with ⟨deed, deedMem, _, isWrite⟩
        rw [isMarks] at deedMem
        rcases shields.marks_writeVolume deed deedMem with ⟨_, isOther⟩
        cases isWrite.symm.trans isOther
  | @attached _ _ shieldMarks guardMarks shielded guarded copy engages shields guards attached =>
      left
      refine ⟨by simp [filter_isAttach_shieldMarks shields, filter_isAttach_guardMarks guards], ?_⟩
      intro particulars attachable
      have same := guards.isAttached (isCopy.of_same shields.same.2)
      exact absurd (attachable.notAttached.symm.trans (same.symm.trans attached))
        Bool.false_ne_true
  | @unprepared _ _ shieldMarks guardMarks shielded guarded copy _ engages shields guards
      unprepared =>
      left
      refine ⟨by simp [filter_isAttach_shieldMarks shields, filter_isAttach_guardMarks guards], ?_⟩
      intro particulars attachable
      cases engages.volume_eq attachable.engages
      rcases attachable.attachRequest_eq with ⟨wanted, prepared⟩
      rw [guards.same.1, shields.same.1, prepared] at unprepared
      contradiction
  | @wanted volumeName volume shieldMarks guardMarks shielded guarded later copy wanted answer
      engages shields guards notAttached prepared =>
      right
      have isCopyShielded := isCopy.of_same shields.same.2
      rw [guards.same.1, shields.same.1] at prepared
      rcases Backdrop.attachRequest_eq_ok_iff.mp prepared with
        ⟨source, isSource, isHandle, isNode, isReadOnly, isCapability, isAttributes, isSecrets⟩
      rcases volumeName?_eq_some_iff.mp engages.named with ⟨named, nonempty⟩
      let particulars : Particulars :=
        { volumeName, volume, source, nodeId := wanted.nodeId, secrets := wanted.secrets }
      have shieldLogged : ∀ deed ∈ shieldMarks, deed ∈ log :=
        fun deed deedMem => logged deed (List.mem_append_left _ deedMem)
      have guardLogged : ∀ deed ∈ guardMarks, deed ∈ log :=
        fun deed deedMem => logged deed
          (List.mem_append_right _ (List.mem_append_left _ deedMem))
      refine ⟨particulars, ⟨guarded, .attach wanted, answer, later⟩, wanted, ?_, rfl, ?_, ?_, ?_⟩
      · simp [filter_isAttach_shieldMarks shields, filter_isAttach_guardMarks guards,
          Deed.isAttach, Instruction.isAttach]
      · exact {
          ready
          addressee := by simpa [Reconciler.isAddressee] using addressee
          notDeleting := Option.not_isSome_iff_eq_none.mp (ne_true_of_eq_false notDeleting)
          named
          nonempty
          found := engages.found
          owned := engages.owned
          volumeNotDeleting :=
            Option.not_isSome_iff_eq_none.mp (ne_true_of_eq_false engages.notDeleting)
          shielded := shields.putsOn shieldLogged
          guarded := guards.putsOn guardLogged
          notAttached := (guards.isAttached isCopyShielded).symm.trans notAttached
          node := isNode
          source := isSource
          accessModes := (capability_isOk_iff reconciler.defaultFileSystem).mp ⟨_, isCapability⟩
          secrets := isSecrets }
      · exact ⟨isHandle.symm, rfl, isReadOnly.symm, isCapability, isAttributes.symm, rfl⟩
      · refine ⟨?_, ?_⟩
        · rw [guards.same.2]
          exact shields.stored (isNamed.volumes engages.found) engages.found
        · intro atHand
          rw [← shields.same.2] at atHand
          exact guards.stored isCopyShielded atHand

/-- Work with an attachment that carries the finalizer asks while the attachments are stored as in
the beginning. -/
theorem AttachMarks.before_of_carries
    (attaches : AttachMarks circumstances reconciler attachment before marks)
    (carries : attachment.metadata.hasFinalizer reconciler.finalizer = true) :
    ∀ deed ∈ marks, deed.isAttach = true → deed.before.attachments = before.attachments := by
  have unasked {marks : List Deed} (none_asked : marks.filter Deed.isAttach = []) {deed : Deed}
      (deedMem : deed ∈ marks) (isAttach : deed.isAttach = true) : False := by
    simpa [isAttach] using List.filter_eq_nil_iff.mp none_asked deed deedMem
  intro deed deedMem isAttach
  cases attaches with
  | unengaged | unshielded => contradiction
  | unguarded _ shields =>
      exact (unasked (filter_isAttach_shieldMarks shields) deedMem isAttach).elim
  | attached _ shields guards | unprepared _ shields guards =>
      rcases List.mem_append.mp deedMem with shieldMem | guardMem
      · exact (unasked (filter_isAttach_shieldMarks shields) shieldMem isAttach).elim
      · exact (unasked (filter_isAttach_guardMarks guards) guardMem isAttach).elim
  | wanted _ shields guards =>
      rcases List.mem_append.mp deedMem with shieldMem | laterMem
      · exact (unasked (filter_isAttach_shieldMarks shields) shieldMem isAttach).elim
      · cases guards with
        | carried =>
            cases List.mem_singleton.mp laterMem
            exact shields.same.2
        | written lacks => exact absurd (lacks.symm.trans carries) Bool.false_ne_true

/-- When, how often and with what the work on an attachment asks the driver to attach its volume. -/
structure Attaching (reconciler : Reconciler) (attachment : VolumeAttachment) (before : Site)
    (log : List Deed) : Prop where
  asked_iff : (∃ deed ∈ log, deed.isAttach = true) ↔
    ∃ particulars, IsAttachable reconciler attachment before log particulars
  once : (log.filter Deed.isAttach).length ≤ 1
  asked : ∀ deed ∈ log, ∀ wanted, deed.request = .attach wanted → ∃ particulars,
    IsAttachable reconciler attachment before log particulars ∧
    IsWanted reconciler particulars wanted ∧
    BothStored reconciler attachment particulars.volumeName before deed.before

theorem IsDeclined.attaching (declined : IsDeclined reconciler attachment before log) :
    Attaching reconciler attachment before log := by
  rcases declined with ⟨unasked, unattachable⟩
  have none_asked : ∀ deed ∈ log, deed.isAttach = false := by
    simpa using List.filter_eq_nil_iff.mp unasked
  refine ⟨?_, by simp [unasked], ?_⟩
  · constructor
    · rintro ⟨deed, deedMem, isAttach⟩
      exact absurd ((none_asked deed deedMem).symm.trans isAttach) Bool.false_ne_true
    · rintro ⟨particulars, attachable⟩
      exact absurd attachable (unattachable particulars)
  · intro deed deedMem wanted isWanted
    have isAttach : deed.isAttach = true := by rw [Deed.isAttach, isWanted]; rfl
    exact absurd ((none_asked deed deedMem).symm.trans isAttach) Bool.false_ne_true

theorem IsAsked.attaching (asked : IsAsked reconciler attachment before log) :
    Attaching reconciler attachment before log := by
  rcases asked with ⟨particulars, deed, wanted, isOnly, isRequest, attachable, isWanted, secured⟩
  have deedMem : deed ∈ log.filter Deed.isAttach := isOnly ▸ List.mem_singleton_self deed
  rcases List.mem_filter.mp deedMem with ⟨deedMem, isAttach⟩
  refine ⟨⟨fun _ => ⟨particulars, attachable⟩, fun _ => ⟨deed, deedMem, isAttach⟩⟩,
    by simp [isOnly], ?_⟩
  intro other otherMem otherWanted isOtherWanted
  have isAttach : other.isAttach = true := by rw [Deed.isAttach, isOtherWanted]; rfl
  have same : other ∈ [deed] := isOnly ▸ List.mem_filter.mpr ⟨otherMem, isAttach⟩
  cases List.mem_singleton.mp same
  cases isRequest.symm.trans isOtherWanted
  exact ⟨particulars, attachable, isWanted, secured⟩

/-- Whatever the driver answers and whichever writes are refused: the driver is asked to attach the
volume of an attachment, or of a copy of it, if and only if it can be attached, and then once. Both
finalizers are stored before, and it is asked with the data of the volume. The instructions are
those by which the work on the attachment is carried out. -/
theorem syncInstructions_attaching {result : Except Failure Unit} (isNamed : before.IsNamed)
    (isCopy : before.IsCopy attachment)
    (ends : (reconciler.syncInstructions attachment).run.Ends
      (Program.Logged (Instruction.Answered circumstances)) (before, []) result (after, log)) :
    (reconciler.syncInstructions attachment).carriedOut = reconciler.syncAttachment attachment ∧
      Attaching reconciler attachment before log := by
  refine ⟨Reconciler.syncInstructions_carriedOut attachment, ?_⟩
  rcases syncInstructions_ends ⟨log, ends, rfl⟩ with
    ⟨ready, addressee, notDeleting, attaches⟩ | ⟨idle, unasked⟩
  · rcases attaches.declined_or_asked isNamed isCopy ready addressee notDeleting with
      declined | asked
    · exact declined.attaching
    · exact asked.attaching
  · apply IsDeclined.attaching
    refine ⟨?_, ?_⟩
    · rw [← filter_isAttach_marks]
      apply List.filter_eq_nil_iff.mpr
      intro deed deedMem
      rw [Deed.isAttach, unasked deed deedMem]
      exact Bool.false_ne_true
    · intro particulars attachable
      have deleting : attachment.metadata.deletionTimestamp.isSome = true :=
        idle attachable.ready (by simp [Reconciler.isAddressee, attachable.addressee])
      simp [attachable.notDeleting] at deleting

open Simulation

/-- A volume that carries the finalizer. -/
def shieldedVolume : PersistentVolume :=
  smallReconciler.shielded smallVolume

/-- An attachment that carries the finalizer. -/
def guardedAttachment : VolumeAttachment :=
  { smallAttachment with
    metadata := smallAttachment.metadata.addFinalizer smallReconciler.finalizer }

/-- A later version of the attachment, without the finalizer. -/
def renewedAttachment : VolumeAttachment :=
  { smallAttachment with
    metadata := { smallAttachment.metadata with resourceVersion := some "2" } }

/-- A small cluster in which the volume carries the finalizer. -/
def shieldedSite (attachment : VolumeAttachment) : Site :=
  { (smallCluster {}).world.site with
    attachments := [("va-1", attachment)]
    volumes := [("pv-1", shieldedVolume)] }

theorem shieldedSite_isNamed (named : attachment.name = "va-1") :
    (shieldedSite attachment).IsNamed where
  attachments := by
    intro name stored found
    by_cases same : name = "va-1"
    · subst same
      cases found
      exact named
    · simp [shieldedSite, Table.find?_cons, same] at found
  volumes := by
    intro name stored found
    by_cases same : name = "pv-1"
    · subst same
      cases found
      rfl
    · simp [shieldedSite, Table.find?_cons, same] at found

theorem exists_logged_sync (reconciler : Reconciler) (attachment : VolumeAttachment)
    (before : Site) : ∃ result after log, (reconciler.syncInstructions attachment).run.Ends
      (Program.Logged (Instruction.Answered (.smooth []))) (before, []) result (after, log) := by
  have answers (instruction : Instruction) (before : Site) :
      ∃ answer after, instruction.Answered (.smooth []) before answer after :=
    Program.exists_ends (Site.exists_answered (Circumstances.smooth_replies [])) _ before
  rcases Program.exists_ends answers (reconciler.syncInstructions attachment).run before with
    ⟨result, after, ends⟩
  rcases ends.exists_logged [] with ⟨log, logged⟩
  exact ⟨result, after, log, logged⟩

def smallParticulars : Particulars where
  volumeName := "pv-1"
  volume := shieldedVolume
  source := shieldedVolume.csiSource?.get rfl
  nodeId := "node-id-1"
  secrets := []

theorem smallParticulars_isAttachable (stored : VolumeAttachment) (log : List Deed) :
    IsAttachable smallReconciler guardedAttachment (shieldedSite stored) log smallParticulars where
  ready := rfl
  addressee := rfl
  notDeleting := rfl
  named := rfl
  nonempty := by decide
  found := rfl
  owned := by decide
  volumeNotDeleting := rfl
  shielded := .inl (by decide)
  guarded := .inl (by decide)
  notAttached := rfl
  node := by rfl
  source := rfl
  accessModes := .inr (.inr ⟨by decide, by decide⟩)
  secrets := rfl

theorem attaching_shieldedSite : ∃ result after log deed wanted,
    (smallReconciler.syncInstructions guardedAttachment).run.Ends
        (Program.Logged (Instruction.Answered (.smooth []))) (shieldedSite guardedAttachment, [])
        result (after, log) ∧
      deed ∈ log ∧ deed.request = .attach wanted ∧ wanted.volumeId = "vol-1" ∧
      wanted.nodeId = "node-id-1" := by
  have isNamed : (shieldedSite guardedAttachment).IsNamed := shieldedSite_isNamed rfl
  have isCopy : (shieldedSite guardedAttachment).IsCopy guardedAttachment := by
    intro stored found _
    cases found
    rfl
  rcases exists_logged_sync smallReconciler guardedAttachment (shieldedSite guardedAttachment) with
    ⟨result, after, log, logged⟩
  have attaching := (syncInstructions_attaching isNamed isCopy logged).2
  rcases attaching.asked_iff.mpr ⟨_, smallParticulars_isAttachable guardedAttachment log⟩ with
    ⟨deed, deedMem, isAttach⟩
  cases isRequest : deed.request with
  | make request => simp [Deed.isAttach, isRequest, Instruction.isAttach] at isAttach
  | attach wanted =>
      rcases attaching.asked deed deedMem wanted isRequest with
        ⟨⟨_, _, _, _, _⟩, attachable, isWanted, _⟩
      cases attachable.named
      cases attachable.found
      cases attachable.source
      cases attachable.node
      exact ⟨result, after, log, deed, wanted, logged, deedMem, isRequest, isWanted.volumeId,
        isWanted.nodeId⟩

/-- An attachment whose volume could be attached is not attached by a reconciler that has not been
given its queues. And with an outdated copy of an attachment that carries the finalizer the driver
is asked although the stored one does not carry it. -/
theorem exists_attachable_not_asked :
    (∃ (reconciler : Reconciler) (attachment : VolumeAttachment) (before after : Site)
        (result : Except Failure Unit) (log : List Deed) (particulars : Particulars),
      before.IsNamed ∧ Table.find? before.attachments attachment.name = some attachment ∧
      (reconciler.syncInstructions attachment).run.Ends
        (Program.Logged (Instruction.Answered (.smooth []))) (before, []) result (after, log) ∧
      IsAttachable { reconciler with ready := true } attachment before log particulars ∧
      ∀ deed ∈ log, deed.isAttach = false) ∧
    ∃ (reconciler : Reconciler) (attachment : VolumeAttachment) (before after : Site)
        (result : Except Failure Unit) (log : List Deed) (deed : Deed),
      before.IsNamed ∧ before.IsCopy attachment ∧
      (reconciler.syncInstructions attachment).run.Ends
        (Program.Logged (Instruction.Answered (.smooth []))) (before, []) result (after, log) ∧
      deed ∈ log ∧ deed.isAttach = true ∧
      ∀ stored, Table.find? deed.before.attachments attachment.name = some stored →
        stored.metadata.hasFinalizer reconciler.finalizer = false := by
  constructor
  · exact ⟨{ smallReconciler with ready := false }, guardedAttachment,
      shieldedSite guardedAttachment, shieldedSite guardedAttachment,
      .error (.settings .notReady), [], smallParticulars, shieldedSite_isNamed rfl, rfl,
      ⟨rfl, rfl⟩, smallParticulars_isAttachable guardedAttachment [], by simp⟩
  · rcases exists_logged_sync smallReconciler guardedAttachment (shieldedSite renewedAttachment)
      with ⟨result, after, log, logged⟩
    have isNamed : (shieldedSite renewedAttachment).IsNamed := shieldedSite_isNamed rfl
    have isCopy : (shieldedSite renewedAttachment).IsCopy guardedAttachment := by
      intro stored found sameVersion
      cases found
      contradiction
    have attachable := smallParticulars_isAttachable renewedAttachment log
    rcases syncInstructions_ends ⟨log, logged, rfl⟩ with ⟨_, _, _, attaches⟩ | ⟨idle, _⟩
    · rcases attaches.declined_or_asked isNamed isCopy rfl rfl rfl with
        ⟨_, unattachable⟩ | ⟨_, deed, _, isOnly, _⟩
      · exact absurd attachable (unattachable _)
      · have asked : deed ∈ log.filter Deed.isAttach := isOnly ▸ List.mem_singleton_self deed
        rcases List.mem_filter.mp asked with ⟨deedMem, isAttach⟩
        rw [← filter_isAttach_marks] at asked
        have same := attaches.before_of_carries (by decide) deed (List.mem_filter.mp asked).1
          isAttach
        refine ⟨smallReconciler, guardedAttachment, _, after, result, log, deed, isNamed, isCopy,
          logged, deedMem, isAttach, ?_⟩
        intro stored found
        rw [same] at found
        cases found
        rfl
    · cases idle rfl rfl

end VolumeAttacher.Reconcile
