import VolumeAttacher.Proofs.Reconcile.Exposure
import VolumeAttacher.Proofs.Reconcile.Fates

/-!
# Which name of its node an attachment keeps

The work that puts the finalizer on an attachment writes the driver's name of the node next to it,
if it knows one, in case the node is gone when the attachment is detached. No other work writes
there. So an attachment with the finalizer keeps what it was given by the latest work that put the
finalizer on, and this need not be the name under which its volume is attached later.

Histories are lists of turns, the latest first. `Happens.cases` says where an attachment with the
finalizer may come from in one turn, and `History.kept` traces it back through all of them.
-/

namespace VolumeAttacher

namespace Table

/-- A write under the name that the content has leaves every object under its own name. -/
theorem Written.isNamed {α : Type} [Versioned α] {before after : Table α} {name : String}
    {old : α} {content : α → α} {answer : Except Failure α}
    (written : before.Written name old content answer after)
    (named : ∀ {name object}, find? before name = some object →
      (Versioned.metadata object).displayName = name)
    (namedContent : ∀ stored, find? before name = some stored →
      (Versioned.metadata (content stored)).displayName = name) :
    ∀ {name object}, find? after name = some object →
      (Versioned.metadata object).displayName = name := by
  intro other object found
  cases written with
  | refused => exact named found
  | @accepted stored version _ foundStored _ stores =>
      rcases stores.eq_or_find? found with ⟨rfl, rfl⟩ | ⟨_, found⟩
      · rw [Versioned.stamped, Versioned.metadata_withMetadata]
        exact namedContent stored foundStored
      · exact named found

end Table

/-- The driver's name of its node that an attachment keeps. -/
def VolumeAttachment.keptNodeId? (attachment : VolumeAttachment) : Option String :=
  attachment.metadata.annotation? attachedNodeIdAnnotation

namespace Reconcile

/-- Whether objects are written under the names that they have. -/
def Request.KeepsName : Request → Prop
  | writeAttachment old new => new.name = old.name
  | writeVolume old new => new.name = old.name
  | _ => True

namespace Site

variable {circumstances : Circumstances} {request : Request} {answer : request.Answer}
  {before after : Site}

theorem Answered.same_of_isLook (isLook : request.isLook)
    (answered : Answered circumstances request before answer after) :
    after.attachments = before.attachments ∧ after.volumes = before.volumes := by
  cases request with
  | writeAttachment | writeStatus | writeVolume => contradiction
  | csiNode | node | secret | attachment | attachments | volume | volumes =>
      rcases answered with ⟨_, rfl⟩
      exact ⟨rfl, rfl⟩
  | call =>
      rcases answered with ⟨_, rfl⟩
      exact ⟨rfl, rfl⟩
  | currentTime | enqueue | retry | forget =>
      cases answered
      exact ⟨rfl, rfl⟩

theorem Answered.isNamed (answered : Answered circumstances request before answer after)
    (keepsName : request.KeepsName) (named : before.IsNamed) : after.IsNamed := by
  cases request with
  | writeAttachment old new =>
      rcases answered with ⟨attachments, rfl, written, _⟩
      exact ⟨written.isNamed named.attachments fun _ _ => keepsName, named.volumes⟩
  | writeStatus old new =>
      rcases answered with ⟨attachments, rfl, written, _⟩
      refine ⟨written.isNamed named.attachments ?_, named.volumes⟩
      intro stored found
      have sameName : stored.name = old.name := named.attachments found
      exact sameName
  | writeVolume old new =>
      rcases answered with ⟨volumes, rfl, written, _⟩
      exact ⟨named.attachments, written.isNamed named.volumes fun _ _ => keepsName⟩
  | csiNode | node | secret | attachment | attachments | volume | volumes =>
      rcases answered with ⟨_, rfl⟩
      exact named
  | call =>
      rcases answered with ⟨_, rfl⟩
      exact ⟨named.attachments, named.volumes⟩
  | currentTime | enqueue | retry | forget =>
      cases answered
      exact named

/-- Whether the metadata of attachments are as they were but for the versions. -/
def KeepsMetadata (before after : Site) : Prop :=
  ∀ name new, Table.find? after.attachments name = some new →
    ∃ old, Table.find? before.attachments name = some old ∧
      new.bare.metadata = old.bare.metadata

theorem keepsMetadata_of_same {before middle after : Site} (kept : before.KeepsMetadata middle)
    (same : after.attachments = middle.attachments) : before.KeepsMetadata after := by
  intro name new found
  rw [same] at found
  exact kept name new found

theorem Answered.keepsMetadata {middle : Site} {old new : VolumeAttachment}
    {answer : Except Failure VolumeAttachment} (kept : before.KeepsMetadata middle)
    (answered : Answered circumstances (.writeStatus old new) middle answer after) :
    before.KeepsMetadata after := by
  rcases answered with ⟨attachments, rfl, written, _⟩
  cases written with
  | refused => exact kept
  | @accepted stored version _ found _ stores =>
      intro name written foundWritten
      rcases stores.eq_or_find? foundWritten with ⟨rfl, rfl⟩ | ⟨_, foundWritten⟩
      · exact kept _ stored found
      · exact kept name written foundWritten

end Site

namespace Reconciler

variable {reconciler : Reconciler} {circumstances : Circumstances} {before after : Site}

theorem Move.keepsName {stage : Stage} {request : Request} {later : request.Answer → Stage}
    (move : reconciler.Move stage request later) : request.KeepsName := by
  cases move with
  | guard attachment nodeId => exact name_protectedAttachment attachment nodeId
  | unguard => rfl
  | shield attachment volume => exact Metadata.displayName_addFinalizer _ _
  | release => rfl
  | @look _ request isLook => cases request <;> trivial
  | _ => trivial

theorem Keeps.isNamed {α : Type} {action : Action α} {stage : Stage}
    {result : Except Failure α} (keeps : reconciler.Keeps action stage)
    (ends : action.Ends circumstances before result after) (named : before.IsNamed) :
    after.IsNamed := by
  have upheld : Program.Upheld reconciler.Move (Site.Answered circumstances)
      fun _ site => site.IsNamed :=
    fun _ _ _ move _ _ _ named answered => answered.isNamed move.keepsName named
  rcases ends.fits upheld keeps.follows named with ⟨_, _, namedAfter⟩
  exact namedAfter

/-- A call that does not work on an attachment keeps the metadata of all of them. -/
theorem Keeps.keepsMetadata {α : Type} {action : Action α} {stage : Stage}
    {result : Except Failure α} (keeps : reconciler.Keeps action stage)
    (ends : action.Ends circumstances before result after) (general : stage.copy? = none) :
    before.KeepsMetadata after := by
  have upheld : Program.Upheld reconciler.Move (Site.Answered circumstances)
      fun stage site => stage.copy? = none ∧ before.KeepsMetadata site := by
    rintro stage request later move middle answer after ⟨general, kept⟩ answered
    cases move with
    | look isLook =>
        exact ⟨general, Site.keepsMetadata_of_same kept (answered.same_of_isLook isLook).1⟩
    | remark => exact ⟨rfl, answered.keepsMetadata kept⟩
    | survey volume =>
        refine ⟨?_, Site.keepsMetadata_of_same kept (answered.same_of_isLook rfl).1⟩
        unfold afterSurvey
        split <;> rfl
    | release volume =>
        rcases answered with ⟨volumes, rfl, _⟩
        exact ⟨rfl, kept⟩
    | _ => contradiction
  have keptBefore : before.KeepsMetadata before := fun _ _ found => ⟨_, found, rfl⟩
  rcases ends.fits upheld keeps.follows ⟨general, keptBefore⟩ with ⟨_, _, _, kept⟩
  exact kept

end Reconciler

namespace Reconciler

variable (reconciler : Reconciler) (backdrop : Backdrop) (attachment : VolumeAttachment)

theorem keptNodeId?_protectedAttachment (nodeId : Except Failure String) :
    (reconciler.protectedAttachment attachment nodeId).keptNodeId? =
      match nodeId with
      | .ok id => some id
      | .error _ => attachment.keptNodeId? := by
  have annotations : (attachment.metadata.addFinalizer reconciler.finalizer).annotations =
      attachment.metadata.annotations := by
    unfold Metadata.addFinalizer
    split <;> rfl
  cases nodeId with
  | ok id =>
      simp [protectedAttachment, VolumeAttachment.keptNodeId?, Metadata.annotation?,
        Metadata.annotate]
  | error failure =>
      simp [protectedAttachment, VolumeAttachment.keptNodeId?, Metadata.annotation?, annotations]

variable {reconciler backdrop attachment} {new : VolumeAttachment}

theorem keptNodeId?_eq_of_metadata (same : new.bare.metadata = attachment.bare.metadata) :
    new.keptNodeId? = attachment.keptNodeId? := by
  have kept : new.bare.metadata.annotation? attachedNodeIdAnnotation =
      attachment.bare.metadata.annotation? attachedNodeIdAnnotation := by rw [same]
  exact kept

theorem hasFinalizer_eq_of_metadata {finalizer : String}
    (same : new.bare.metadata = attachment.bare.metadata) :
    new.metadata.hasFinalizer finalizer = attachment.metadata.hasFinalizer finalizer := by
  have carries : new.bare.metadata.hasFinalizer finalizer =
      attachment.bare.metadata.hasFinalizer finalizer := by rw [same]
  exact carries

/-- What an attachment keeps that has been given the finalizer, if it did not carry it before. -/
theorem kept_of_guarded
    (metadata : new.bare.metadata = (reconciler.guarded backdrop attachment.bare).metadata) :
    attachment.metadata.hasFinalizer reconciler.finalizer = true ∧
        new.keptNodeId? = attachment.keptNodeId? ∨
      attachment.metadata.hasFinalizer reconciler.finalizer = false ∧
        new.keptNodeId? =
          match backdrop.nodeId reconciler attachment.spec.nodeName none with
          | .ok id => some id
          | .error _ => attachment.keptNodeId? := by
  cases carries : attachment.metadata.hasFinalizer reconciler.finalizer with
  | true =>
      rw [guarded_of_hasFinalizer _ _ attachment.bare carries] at metadata
      exact .inl ⟨rfl, keptNodeId?_eq_of_metadata metadata⟩
  | false =>
      have lacks : ¬ attachment.bare.metadata.hasFinalizer reconciler.finalizer = true :=
        ne_true_of_eq_false carries
      rw [guarded_of_not_hasFinalizer _ _ attachment.bare lacks, ← bare_protectedAttachment]
        at metadata
      refine .inr ⟨rfl, ?_⟩
      rw [keptNodeId?_eq_of_metadata metadata, keptNodeId?_protectedAttachment]
      rfl

theorem nodeId_kept {nodeName : String} {failure : Failure} (kept : Option String)
    (unknown : backdrop.nodeId reconciler nodeName none = .error failure) :
    backdrop.nodeId reconciler nodeName kept = kept.elim (.error failure) .ok := by
  unfold Backdrop.nodeId at unknown ⊢
  cases registered : (backdrop.csiNode nodeName).bind fun node => node.idFor? reconciler.driver with
  | some id =>
      rw [registered] at unknown
      contradiction
  | none =>
      rw [registered] at unknown
      dsimp only at unknown ⊢
      split at unknown
      · contradiction
      · contradiction
      next other annotated isNone =>
          cases unknown
          rw [annotated]
          cases kept <;> rfl

/-- When a volume is to be detached, the kept name is what names a node that nothing else names. -/
theorem attachedNodeId_kept {circumstances : Circumstances} {before after : Site}
    {named : Except Failure (Except Failure String)} {failure : Failure}
    (unknown : before.backdrop.nodeId reconciler attachment.spec.nodeName none = .error failure)
    (ends : (reconciler.attachedNodeId attachment).Ends circumstances before named after) :
    named = .ok (attachment.keptNodeId?.elim (.error failure) .ok) := by
  rw [attachedNodeId, nodeId_ends] at ends
  rw [ends.1, ← nodeId_kept _ unknown]
  rfl

end Reconciler

structure Turn where
  before : Site
  occurrence : Reconciler.Occurrence
  after : Site

def Site.carries (site : Site) (finalizer name : String) : Bool :=
  (Table.find? site.attachments name).any fun attachment =>
    attachment.metadata.hasFinalizer finalizer

namespace Turn

/-- Whether a turn puts a finalizer on the attachment that is stored under a name. -/
def guards (finalizer name : String) (turn : Turn) : Bool :=
  !turn.before.carries finalizer name && turn.after.carries finalizer name

/-- The driver's name of its node that an attachment keeps once work has put the finalizer on: as it
is known at that time, and otherwise the one that it kept before. -/
def keptNodeId? (reconciler : Reconciler) (name : String) (turn : Turn) : Option String :=
  (Table.find? turn.before.attachments name).bind fun attachment =>
    match turn.before.backdrop.nodeId reconciler attachment.spec.nodeName none with
    | .ok id => some id
    | .error _ => attachment.keptNodeId?

end Turn

namespace Reconciler

variable (reconciler : Reconciler)

/-- A change of a site by others, who put the finalizer on no attachment, and do not change which
name of its node an attachment keeps while it carries the finalizer. -/
structure LeavesKept (before after : Site) : Prop where
  isNamed : after.IsNamed
  kept : ∀ name new, Table.find? after.attachments name = some new →
    new.metadata.hasFinalizer reconciler.finalizer = true →
    ∃ old, Table.find? before.attachments name = some old ∧
      old.metadata.hasFinalizer reconciler.finalizer = true ∧ new.keptNodeId? = old.keptNodeId?

/-- What may happen in a turn, in whatever circumstances. Work on an attachment may begin with a
copy that is not stored any more. -/
inductive Happens : Turn → Prop
  | attachment {circumstances : Circumstances} {before after : Site}
      {attachment : VolumeAttachment} {result : Except Failure Unit}
      (isCopy : before.IsCopy attachment)
      (ends : (reconciler.syncAttachment attachment).Ends circumstances before result after) :
      Happens ⟨before, .attachment attachment.name result, after⟩
  | volume {circumstances : Circumstances} {before after : Site} {name : String}
      {volume : PersistentVolume} {result : Except Failure Unit}
      (stored : Table.find? before.volumes name = some volume)
      (ends : (reconciler.syncVolume volume).Ends circumstances before result after) :
      Happens ⟨before, .volume name result, after⟩
  | everything {circumstances : Circumstances} {before after : Site}
      {result : Except Failure Unit}
      (ends : reconciler.reconcileAll.Ends circumstances before result after) :
      Happens ⟨before, .everything result, after⟩
  | change {before after : Site} (leaves : reconciler.LeavesKept before after) :
      Happens ⟨before, .change, after⟩

/-- The histories that begin in a site and end in another one. -/
inductive History (initial : Site) : List Turn → Site → Prop
  | start : History initial [] initial
  | turn {turns : List Turn} {before after : Site} {occurrence : Occurrence}
      (history : History initial turns before)
      (happens : reconciler.Happens ⟨before, occurrence, after⟩) :
      History initial (⟨before, occurrence, after⟩ :: turns) after

variable {reconciler}

theorem Happens.isNamed {turn : Turn} (happens : reconciler.Happens turn)
    (named : turn.before.IsNamed) : turn.after.IsNamed := by
  cases happens with
  | attachment stored ends => exact (syncAttachment_keeps _).isNamed ends named
  | volume stored ends => exact (syncVolume_keeps _).isNamed ends named
  | everything ends => exact reconcileAll_keeps.isNamed ends named
  | change leaves => exact leaves.isNamed

/-- An attachment with the finalizer carried it before the turn and keeps the same name of its node,
or it has been given both in this turn, which is work on it. The name is written only where the
finalizer has been lacking. -/
theorem Happens.cases {turn : Turn} {name : String} {new : VolumeAttachment}
    (happens : reconciler.Happens turn) (named : turn.before.IsNamed)
    (found : Table.find? turn.after.attachments name = some new)
    (carries : new.metadata.hasFinalizer reconciler.finalizer = true) :
    (∃ old, Table.find? turn.before.attachments name = some old ∧
      old.metadata.hasFinalizer reconciler.finalizer = true ∧
      new.keptNodeId? = old.keptNodeId?) ∨
    turn.before.carries reconciler.finalizer name = false ∧
      (∃ result, turn.occurrence = .attachment name result) ∧
      new.keptNodeId? = turn.keptNodeId? reconciler name := by
  have kept (keeps : turn.before.KeepsMetadata turn.after) :
      ∃ old, Table.find? turn.before.attachments name = some old ∧
        old.metadata.hasFinalizer reconciler.finalizer = true ∧
        new.keptNodeId? = old.keptNodeId? := by
    rcases keeps name new found with ⟨old, foundOld, metadata⟩
    exact ⟨old, foundOld, (hasFinalizer_eq_of_metadata metadata).symm.trans carries,
      keptNodeId?_eq_of_metadata metadata⟩
  cases happens with
  | @attachment circumstances before after attachment result isCopy ends =>
      rcases isCopy.sync named ends with same | ⟨stored, content, sets, fate⟩
      · exact .inl ⟨new, same ▸ found, carries, rfl⟩
      by_cases same : name = attachment.name
      · subst same
        cases sets.found.symm.trans found
        cases fate with
        | restated metadata =>
            exact .inl ⟨attachment, stored,
              (hasFinalizer_eq_of_metadata metadata).symm.trans carries,
              keptNodeId?_eq_of_metadata metadata⟩
        | guarded metadata | marked metadata =>
            rcases kept_of_guarded metadata with ⟨carried, same⟩ | ⟨lacked, same⟩
            · exact .inl ⟨attachment, stored, carried, same⟩
            · refine .inr ⟨?_, ⟨result, rfl⟩, same.trans ?_⟩
              · simp [Site.carries, stored, lacked]
              · simp [Turn.keptNodeId?, stored]
        | released lacks =>
            rw [lacks new rfl] at carries
            contradiction
      · exact .inl ⟨new, (sets.others name same).symm.trans found, carries, rfl⟩
  | volume stored ends => exact .inl (kept ((syncVolume_keeps _).keepsMetadata ends rfl))
  | everything ends => exact .inl (kept (reconcileAll_keeps.keepsMetadata ends rfl))
  | change leaves => exact .inl (leaves.kept name new found carries)

/-- Work that marks an attachment as attached has given it the finalizer, if it did not carry it,
and has sent a call, with the node as it is known then. -/
theorem Happens.marked {before after : Site} {name : String} {result : Except Failure Unit}
    {attachment marked : VolumeAttachment}
    (happens : reconciler.Happens ⟨before, .attachment name result, after⟩)
    (named : before.IsNamed)
    (stored : Table.find? before.attachments name = some attachment)
    (notAttached : attachment.isAttached = false)
    (found : Table.find? after.attachments name = some marked)
    (attached : marked.isAttached = true) :
    ∃ request : Csi.PublishRequest,
      marked.bare.metadata = (reconciler.guarded before.backdrop attachment.bare).metadata ∧
      before.backdrop.nodeId reconciler attachment.spec.nodeName none = .ok request.nodeId ∧
      after.calls = .publish request :: before.calls := by
  cases happens with
  | attachment isCopy ends =>
      rcases isCopy.sync named ends with same | ⟨storedCopy, content, sets, fate⟩
      · rw [same] at found
        cases stored.symm.trans found
        exact absurd attached (by simp [notAttached])
      cases stored.symm.trans storedCopy
      cases sets.found.symm.trans found
      cases fate with
      | restated _ notMarked | guarded _ notMarked =>
          exact absurd (notMarked attached) (by simp [notAttached])
      | marked metadata known calls => exact ⟨_, metadata, known, calls⟩
      | released _ notMarked => exact absurd attached (by simp [notMarked marked rfl])

theorem History.isNamed {initial site : Site} {turns : List Turn}
    (history : reconciler.History initial turns site) (named : initial.IsNamed) :
    site.IsNamed := by
  induction history with
  | start => exact named
  | turn history happens ih => exact happens.isNamed ih

/-- An attachment that carries the finalizer has been given it by work on it, and keeps the name of
its node that the latest such work has left. -/
theorem History.kept {initial site : Site} {turns : List Turn}
    (history : reconciler.History initial turns site) (named : initial.IsNamed)
    (unguarded : ∀ name attachment, Table.find? initial.attachments name = some attachment →
      attachment.metadata.hasFinalizer reconciler.finalizer = false)
    {name : String} {attachment : VolumeAttachment}
    (found : Table.find? site.attachments name = some attachment)
    (carries : attachment.metadata.hasFinalizer reconciler.finalizer = true) :
    ∃ guard, turns.find? (·.guards reconciler.finalizer name) = some guard ∧
      (∃ result, guard.occurrence = .attachment name result) ∧
      attachment.keptNodeId? = guard.keptNodeId? reconciler name := by
  induction history generalizing attachment with
  | start =>
      rw [unguarded name attachment found] at carries
      contradiction
  | @turn turns before after occurrence history happens ih =>
      have carriesAfter : after.carries reconciler.finalizer name = true := by
        simp [Site.carries, found, carries]
      rcases happens.cases (history.isNamed named) found carries with
        ⟨old, foundOld, carriesOld, same⟩ | ⟨lacked, isSync, isKept⟩
      · have carriesBefore : before.carries reconciler.finalizer name = true := by
          simp [Site.carries, foundOld, carriesOld]
        rcases ih foundOld carriesOld with ⟨guard, isLatest, isSync, isKept⟩
        refine ⟨guard, ?_, isSync, same.trans isKept⟩
        rw [List.find?_cons_of_neg (by simp [Turn.guards, carriesBefore])]
        exact isLatest
      · refine ⟨_, List.find?_cons_of_pos ?_, isSync, isKept⟩
        have lacked : before.carries reconciler.finalizer name = false := lacked
        simp [Turn.guards, lacked, carriesAfter]

/-- Work that marks an attachment as attached has sent a call with the node as it is known then. The
attachment carries the finalizer, and keeps the name of its node as it was known to the latest work
that put the finalizer on, or else the one that it kept before that; if the work itself has put the
finalizer on, this is the name in the call. While it keeps that name, and once nothing else names
the node, the kept name is taken to detach the volume. -/
theorem History.marked_keptNodeId {initial before after : Site} {turns : List Turn}
    {name : String} {result : Except Failure Unit} {attachment marked : VolumeAttachment}
    (history : reconciler.History initial (⟨before, .attachment name result, after⟩ :: turns) after)
    (named : initial.IsNamed)
    (unguarded : ∀ name attachment, Table.find? initial.attachments name = some attachment →
      attachment.metadata.hasFinalizer reconciler.finalizer = false)
    (stored : Table.find? before.attachments name = some attachment)
    (notAttached : attachment.isAttached = false)
    (found : Table.find? after.attachments name = some marked)
    (attached : marked.isAttached = true) :
    ∃ request guard,
      after.calls = .publish request :: before.calls ∧
      before.backdrop.nodeId reconciler attachment.spec.nodeName none = .ok request.nodeId ∧
      (⟨before, .attachment name result, after⟩ :: turns).find?
        (·.guards reconciler.finalizer name) = some guard ∧
      (∃ result, guard.occurrence = .attachment name result) ∧
      marked.metadata.hasFinalizer reconciler.finalizer = true ∧
      marked.keptNodeId? = guard.keptNodeId? reconciler name ∧
      (attachment.metadata.hasFinalizer reconciler.finalizer = false →
        marked.keptNodeId? = some request.nodeId) ∧
      ∀ {circumstances : Circumstances} {leaving : VolumeAttachment} {site later : Site}
        {naming : Except Failure (Except Failure String)} {failure : Failure},
        leaving.keptNodeId? = marked.keptNodeId? →
        site.backdrop.nodeId reconciler leaving.spec.nodeName none = .error failure →
        (reconciler.attachedNodeId leaving).Ends circumstances site naming later →
        naming = .ok ((guard.keptNodeId? reconciler name).elim (.error failure) .ok) := by
  have namedBefore : before.IsNamed := by
    cases history with
    | turn history happens => exact history.isNamed named
  have happens : reconciler.Happens ⟨before, .attachment name result, after⟩ := by
    cases history with
    | turn history happens => exact happens
  rcases happens.marked namedBefore stored notAttached found attached with
    ⟨request, metadata, known, calls⟩
  have carries : marked.metadata.hasFinalizer reconciler.finalizer = true := by
    have carries : marked.bare.metadata.hasFinalizer reconciler.finalizer = true := by
      rw [metadata]
      exact hasFinalizer_guarded _ _ _
    exact carries
  rcases history.kept named unguarded found carries with ⟨guard, isLatest, isSync, isKept⟩
  refine ⟨request, guard, calls, known, isLatest, isSync, carries, isKept, ?_, ?_⟩
  · intro lacked
    rcases kept_of_guarded metadata with ⟨carried, _⟩ | ⟨_, same⟩
    · exact absurd (lacked.symm.trans carried) Bool.false_ne_true
    · rw [same, known]
  · intro circumstances leaving site later naming failure sameKept unknown ends
    rw [attachedNodeId_kept unknown ends, sameKept, isKept]

open Simulation

def smallSync (world : World) : Except Failure Unit × World :=
  world.perform (smallReconciler.syncAttachment
    ((Table.find? world.site.attachments "va-1").getD smallAttachment))

theorem happens_smallSync {world : World} (named : world.site.IsNamed)
    (present : (Table.find? world.site.attachments "va-1").isSome = true) :
    smallReconciler.Happens
      ⟨world.site, .attachment "va-1" (smallSync world).1, (smallSync world).2.site⟩ := by
  rcases Option.isSome_iff_exists.mp present with ⟨attachment, found⟩
  have sameName : attachment.name = "va-1" := named.attachments found
  have isStored :
      (Table.find? world.site.attachments "va-1").getD smallAttachment = attachment := by
    rw [found]
    rfl
  have ends : (smallReconciler.syncAttachment attachment).Ends .arbitrary world.site
      (smallSync world).1 (smallSync world).2.site := by
    rw [smallSync, isStored]
    exact World.perform_ends_arbitrary _ world
  have isCopy : world.site.IsCopy attachment := by
    intro stored foundStored _
    rw [sameName, found] at foundStored
    exact (Option.some.inj foundStored).symm
  exact sameName ▸ .attachment isCopy ends

def timedOut : World :=
  (smallSync (smallCluster slowDriver).world).2

theorem smallCluster_unguarded (script : Script) (name : String) (attachment : VolumeAttachment)
    (found : Table.find? (smallCluster script).scene.attachments name = some attachment) :
    attachment.metadata.hasFinalizer smallReconciler.finalizer = false := by
  rcases find?_smallCluster_attachments found with ⟨_, rfl⟩
  decide

/-- After an attach call that took too long, the finalizer is there already, with the name of the
node that is sent again. -/
theorem marked_keptNodeId_after_timeout : ∃ request marked,
    Table.find? (smallSync timedOut).2.site.attachments "va-1" = some marked ∧
      marked.isAttached = true ∧
      (smallSync timedOut).2.site.calls = .publish request :: timedOut.site.calls ∧
      marked.keptNodeId? = some request.nodeId := by
  let first : Turn :=
    ⟨(smallCluster slowDriver).world.site,
      .attachment "va-1" (smallSync (smallCluster slowDriver).world).1, timedOut.site⟩
  let second : Turn :=
    ⟨timedOut.site, .attachment "va-1" (smallSync timedOut).1, (smallSync timedOut).2.site⟩
  have present : (Table.find? timedOut.site.attachments "va-1").isSome = true := by
    decide +kernel
  have named : (smallCluster slowDriver).world.site.IsNamed :=
    ⟨(smallCluster_isNamed slowDriver).attachments, (smallCluster_isNamed slowDriver).volumes⟩
  have tried : smallReconciler.History (smallCluster slowDriver).world.site [first]
      timedOut.site :=
    .turn .start (happens_smallSync named rfl)
  have history : smallReconciler.History (smallCluster slowDriver).world.site [second, first]
      (smallSync timedOut).2.site :=
    tried.turn (happens_smallSync (tried.isNamed named) present)
  rcases Option.isSome_iff_exists.mp present with ⟨attachment, stored⟩
  have notAttached : (Table.find? timedOut.site.attachments "va-1").any
      VolumeAttachment.isAttached = false := by decide +kernel
  have isMarked : (Table.find? (smallSync timedOut).2.site.attachments "va-1").any
      VolumeAttachment.isAttached = true := by decide +kernel
  rcases Option.any_eq_true .. |>.mp isMarked with ⟨marked, found, attached⟩
  rw [stored] at notAttached
  rcases history.marked_keptNodeId named (smallCluster_unguarded slowDriver) stored notAttached
    found attached with ⟨request, guard, calls, known, isLatest, _, _, isKept, _⟩
  refine ⟨request, marked, found, attached, calls, isKept.trans ?_⟩
  have isFirst : [second, first].find? (·.guards smallReconciler.finalizer "va-1") =
      some first := by
    rw [List.find?_cons_of_neg (by decide +kernel), List.find?_cons_of_pos (by decide +kernel)]
  cases isFirst.symm.trans isLatest
  have nodeName : (Table.find? timedOut.site.attachments "va-1").map (·.spec.nodeName) =
      some "node-1" := by decide +kernel
  rw [stored] at nodeName
  have nodeName : attachment.spec.nodeName = "node-1" := Option.some.inj nodeName
  rw [nodeName] at known
  have sent : timedOut.site.backdrop.nodeId smallReconciler "node-1" none = .ok "node-id-1" := by
    rfl
  rw [← Except.ok.inj (sent.symm.trans known)]
  decide +kernel

/-- The small cluster before the driver's name of the node is registered, after an attempt to attach
the volume. -/
def unregistered : World :=
  let world := (smallCluster {}).world
  { world with store := { world.store with csiNodes := [] } }

/-- The same after a failed attempt to attach the volume, when the name has been registered. -/
def registered : World :=
  let world := (smallSync unregistered).2
  { world with store := { world.store with csiNodes := [("node-1", smallNode)] } }

def lateRequest : Csi.PublishRequest where
  volumeId := "vol-1"
  nodeId := "node-id-1"
  volumeCapability := some
    { accessMode := some { mode := 1 }
      accessType := some (.mount { fsType := "ext4" }) }

/-- An attachment whose node has been registered between two attempts keeps no name of the node,
although its volume has been attached. -/
theorem exists_marked_without_keptNodeId :
    ∃ turns before result after attachment marked request,
      smallReconciler.History unregistered.site
        (⟨before, .attachment "va-1" result, after⟩ :: turns) after ∧
      unregistered.site.IsNamed ∧
      (∀ name attachment, Table.find? unregistered.site.attachments name = some attachment →
        attachment.metadata.hasFinalizer smallReconciler.finalizer = false) ∧
      Table.find? before.attachments "va-1" = some attachment ∧
      attachment.isAttached = false ∧
      Table.find? after.attachments "va-1" = some marked ∧
      marked.isAttached = true ∧
      after.calls = .publish request :: before.calls ∧
      marked.keptNodeId? ≠ some request.nodeId := by
  have named : unregistered.site.IsNamed :=
    ⟨(smallCluster_isNamed {}).attachments, (smallCluster_isNamed {}).volumes⟩
  have tried : smallReconciler.History unregistered.site _ (smallSync unregistered).2.site :=
    .turn .start (happens_smallSync named rfl)
  have namedLater : registered.site.IsNamed :=
    ⟨(tried.isNamed named).attachments, (tried.isNamed named).volumes⟩
  have leaves : smallReconciler.LeavesKept (smallSync unregistered).2.site registered.site :=
    ⟨namedLater, fun _ new found carries => ⟨new, found, carries, rfl⟩⟩
  have present : (Table.find? registered.site.attachments "va-1").isSome = true := by
    decide +kernel
  have history := tried.turn (.change leaves) |>.turn (happens_smallSync namedLater present)
  have isMarked : (Table.find? (smallSync registered).2.site.attachments "va-1").any
      (fun marked => marked.isAttached && marked.keptNodeId?.isNone) = true := by decide +kernel
  have notAttached : (Table.find? registered.site.attachments "va-1").any
      VolumeAttachment.isAttached = false := by decide +kernel
  have calls : (smallSync registered).2.site.calls =
      .publish lateRequest :: registered.site.calls := by decide +kernel
  rcases Option.isSome_iff_exists.mp present with ⟨attachment, stored⟩
  rcases Option.any_eq_true .. |>.mp isMarked with ⟨marked, found, isMarked⟩
  rw [stored] at notAttached
  rw [Bool.and_eq_true] at isMarked
  refine ⟨_, _, _, _, attachment, marked, lateRequest, history, named, ?_, stored, notAttached,
    found, isMarked.1, calls, ?_⟩
  · exact smallCluster_unguarded {}
  · rw [Option.isNone_iff_eq_none.mp isMarked.2]
    exact Option.some_ne_none _ |>.symm

end Reconciler

end Reconcile

end VolumeAttacher
