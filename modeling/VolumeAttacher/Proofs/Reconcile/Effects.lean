import VolumeAttacher.Proofs.Cluster.Scene
import VolumeAttacher.Proofs.Reconcile.Calls

/-!
# The effects of calls on stored objects

While calls are made one after another and see the objects as they are stored, the stages of a call
say what the call knows of the stored objects. With this each move has one of a few effects on them.
A law about runs of complete calls is proved by showing that no effect breaks it.
-/

namespace VolumeAttacher.Reconcile

namespace Reconciler

variable (reconciler : Reconciler)

/-- Whether the volume of an attachment is stored with the finalizer. -/
def IsGuarded (volumes : Table PersistentVolume) (attachment : VolumeAttachment) : Prop :=
  ∃ name volume, attachment.volumeName? = some name ∧ Table.find? volumes name = some volume ∧
    volume.metadata.hasFinalizer reconciler.finalizer

/-- What a call knows of the stored objects in each stage. -/
def Fits (scene : Scene) : Stage → Prop
  | .attaching attachment | .detaching attachment =>
      Table.find? scene.attachments attachment.name = some attachment
  | .unpublished attachment | .cleared attachment =>
      Table.find? scene.attachments attachment.name = some attachment ∧
        attachment.metadata.hasFinalizer reconciler.finalizer
  | .found attachment volume =>
      Table.find? scene.attachments attachment.name = some attachment ∧
        Table.find? scene.volumes volume.name = some volume ∧
        attachment.volumeName? = some volume.name
  | .shielded attachment =>
      Table.find? scene.attachments attachment.name = some attachment ∧
        reconciler.IsGuarded scene.volumes attachment
  | .guarded attachment | .published attachment =>
      Table.find? scene.attachments attachment.name = some attachment ∧
        attachment.metadata.hasFinalizer reconciler.finalizer ∧
        reconciler.IsGuarded scene.volumes attachment
  | .releasing volume => Table.find? scene.volumes volume.name = some volume
  | .unused volume =>
      Table.find? scene.volumes volume.name = some volume ∧
        ∀ {name attachment}, Table.find? scene.attachments name = some attachment →
          attachment.volumeName? = some volume.name → ¬attachment.isAttached
  | .resting => True

/-- What an answered move of the work on an attachment, or of other work, may have done to a scene.
An attachment that is written is marked as attached only if it was, or if its volume is guarded, and
it keeps the finalizer unless its status has been cleared. -/
inductive Effect (about : Option String) (stage : Stage) (before : Scene) : Scene → Prop
  | same : Effect about stage before before
  | call {isExposed : String → Bool}
      (exposed : ∀ name, isExposed name → before.isExposed name ∨
        about = some name ∧ ∃ attachment, stage = .guarded attachment) :
      Effect about stage before { before with isExposed }
  | attachment {name : String} {stored written : VolumeAttachment}
      {attachments : Table VolumeAttachment}
      (found : Table.find? before.attachments name = some stored)
      (stores : before.attachments.Stores name written attachments) (named : written.name = name)
      (spec : written.spec = stored.spec)
      (attached : written.isAttached →
        stored.isAttached ∨ reconciler.IsGuarded before.volumes written)
      (kept : stored.metadata.hasFinalizer reconciler.finalizer →
        written.metadata.hasFinalizer reconciler.finalizer ∨ stage = .cleared stored) :
      Effect about stage before { before with attachments }
  | shield {name : String} {written : PersistentVolume} {volumes : Table PersistentVolume}
      (stores : before.volumes.Stores name written volumes) (named : written.name = name)
      (carries : written.metadata.hasFinalizer reconciler.finalizer) :
      Effect about stage before { before with volumes }
  | release {volume written : PersistentVolume} {volumes : Table PersistentVolume}
      (unused : stage = .unused volume)
      (stores : before.volumes.Stores volume.name written volumes)
      (named : written.name = volume.name) :
      Effect about stage before { before with volumes }

variable {reconciler} {about : Option String} {stage : Stage} {before after : Scene}

/-- A volume with the finalizer is guarded as long as it keeps the finalizer. -/
theorem IsGuarded.mono {volumes later : Table PersistentVolume} {attachment : VolumeAttachment}
    (guarded : reconciler.IsGuarded volumes attachment)
    (keeps : ∀ {name volume}, attachment.volumeName? = some name →
      Table.find? volumes name = some volume →
      volume.metadata.hasFinalizer reconciler.finalizer →
      ∃ kept, Table.find? later name = some kept ∧
        kept.metadata.hasFinalizer reconciler.finalizer) :
    reconciler.IsGuarded later attachment := by
  rcases guarded with ⟨name, volume, refers, found, hasFinalizer⟩
  rcases keeps refers found hasFinalizer with ⟨kept, foundKept, keptFinalizer⟩
  exact ⟨name, kept, refers, foundKept, keptFinalizer⟩

/-- Putting the finalizer on a volume guards what was guarded. -/
theorem IsGuarded.shield {volumes later : Table PersistentVolume} {attachment : VolumeAttachment}
    {name : String} {written : PersistentVolume}
    (guarded : reconciler.IsGuarded volumes attachment) (stores : volumes.Stores name written later)
    (hasFinalizer : written.metadata.hasFinalizer reconciler.finalizer) :
    reconciler.IsGuarded later attachment := by
  apply guarded.mono
  intro other volume _ found volumeFinalizer
  by_cases same : other = name
  · subst same
    exact ⟨written, stores.find?_eq hasFinalizer, hasFinalizer⟩
  · exact ⟨volume, (stores.others other same).trans found, volumeFinalizer⟩

theorem isGuarded_of_spec_eq {volumes : Table PersistentVolume}
    {attachment other : VolumeAttachment} (spec : other.spec = attachment.spec)
    (guarded : reconciler.IsGuarded volumes attachment) : reconciler.IsGuarded volumes other := by
  unfold IsGuarded
  rw [volumeName?_eq_of_spec_eq spec]
  exact guarded

theorem Fits.copy {attachment : VolumeAttachment} (fit : reconciler.Fits before stage)
    (held : stage.copy? = some attachment) :
    Table.find? before.attachments attachment.name = some attachment := by
  cases stage with
  | attaching _ | detaching _ =>
      cases held
      exact fit
  | found _ _ | shielded _ | guarded _ | published _ | unpublished _ | cleared _ =>
      cases held
      exact fit.1
  | releasing _ | unused _ | resting => contradiction

/-- A write of a status has the effect of a write of the attachment, if it marks the stored
attachment as attached only with good reason. -/
theorem effect_of_writeStatus {old new : VolumeAttachment}
    {answer : (Request.writeStatus old new).Answer} (named : before.IsNamed)
    (answered : Scene.Answered about (.writeStatus old new) before answer after)
    (attached : ∀ {stored}, Table.find? before.attachments old.name = some stored →
      new.isAttached → stored.isAttached ∨ reconciler.IsGuarded before.volumes stored) :
    reconciler.Effect about stage before after := by
  rcases answered with ⟨attachments, rfl, written⟩
  cases written with
  | refused failure => exact .same
  | @accepted stored version _ found sameVersion stores =>
      have storedName : stored.name = old.name := named.attachments found
      exact .attachment found stores storedName rfl (attached found) Or.inl

theorem Move.effect {request : Request} {later : request.Answer → Stage} {answer : request.Answer}
    (move : reconciler.Move stage request later) (named : before.IsNamed)
    (fit : reconciler.Fits before stage)
    (answered : Scene.Answered about request before answer after) :
    reconciler.Effect about stage before after := by
  cases move with
  | look isLook =>
      rw [answered.eq_of_isLook isLook]
      exact .same
  | find _ =>
      rw [answered.2]
      exact .same
  | shield attachment volume =>
      rcases answered with ⟨volumes, rfl, written⟩
      cases written with
      | refused failure => exact .same
      | accepted found sameVersion stores =>
          exact .shield stores (Metadata.displayName_addFinalizer _ _)
            (Metadata.hasFinalizer_addFinalizer _ _)
  | guard attachment nodeId =>
      rcases answered with ⟨attachments, rfl, written⟩
      cases written with
      | refused failure => exact .same
      | @accepted stored version _ found sameVersion stores =>
          cases Option.some.inj (found.symm.trans fit.1)
          refine .attachment found stores ?_ ?_ Or.inl ?_
          · exact name_protectedAttachment attachment nodeId
          · exact spec_protectedAttachment attachment nodeId
          · exact fun _ => Or.inl (hasFinalizer_protectedAttachment attachment nodeId)
  | publish attachment request =>
      rw [show after = _ from answered]
      apply Effect.call
      intro name exposed
      by_cases same : about = some name
      · exact Or.inr ⟨same, attachment, rfl⟩
      · rw [if_neg same] at exposed
        exact Or.inl exposed
  | unpublish _ request =>
      rw [show after = _ from answered]
      apply Effect.call
      intro name exposed
      split at exposed
      · exact Or.inl (exposed_of_unpublish exposed)
      · exact Or.inl exposed
  | confirm attachment publishContext =>
      apply effect_of_writeStatus named answered
      intro stored found _
      cases Option.some.inj (found.symm.trans fit.1)
      exact Or.inr fit.2.2
  | clear attachment =>
      apply effect_of_writeStatus named answered
      intro stored found attached
      rw [isAttached_detached] at attached
      contradiction
  | unguard attachment =>
      rcases answered with ⟨attachments, rfl, written⟩
      cases written with
      | refused failure => exact .same
      | @accepted stored version _ found sameVersion stores =>
          cases Option.some.inj (found.symm.trans fit.1)
          exact .attachment found stores rfl rfl Or.inl fun _ => Or.inr rfl
  | @remark stage old new kept =>
      apply effect_of_writeStatus named answered
      intro stored found attached
      rcases kept attached with ⟨held, wasAttached⟩
      cases Option.some.inj (found.symm.trans (fit.copy held))
      exact Or.inl wasAttached
  | survey volume =>
      rw [answered.2]
      exact .same
  | release volume =>
      rcases answered with ⟨volumes, rfl, written⟩
      cases written with
      | refused failure => exact .same
      | accepted found sameVersion stores => exact .release rfl stores rfl

theorem fits_secured {scene : Scene} {attachment : VolumeAttachment}
    (found : Table.find? scene.attachments attachment.name = some attachment)
    (guarded : reconciler.IsGuarded scene.volumes attachment) :
    reconciler.Fits scene (reconciler.secured attachment) := by
  unfold secured
  split
  next carries => exact ⟨found, carries, guarded⟩
  next => exact ⟨found, guarded⟩

theorem fits_withdrawn {scene : Scene} {attachment : VolumeAttachment}
    (found : Table.find? scene.attachments attachment.name = some attachment)
    (carries : attachment.metadata.hasFinalizer reconciler.finalizer) :
    reconciler.Fits scene (withdrawn attachment) := by
  unfold withdrawn
  split
  · exact ⟨found, carries⟩
  · exact ⟨found, carries⟩

theorem Move.fits {request : Request} {later : request.Answer → Stage} {answer : request.Answer}
    (move : reconciler.Move stage request later) (named : before.IsNamed)
    (fit : reconciler.Fits before stage)
    (answered : Scene.Answered about request before answer after) :
    reconciler.Fits after (later answer) := by
  cases move with
  | look isLook =>
      rw [answered.eq_of_isLook isLook]
      exact fit
  | @find attachment name refers =>
      rcases answered with ⟨rfl, rfl⟩
      cases found : Table.find? after.volumes name with
      | none => exact fit
      | some volume =>
          cases named.volumes found
          simp only [afterLookup]
          split
          next carries => exact fits_secured fit ⟨volume.name, volume, refers, found, carries⟩
          next => exact ⟨fit, found, refers⟩
  | shield attachment volume =>
      rcases answered with ⟨volumes, rfl, written⟩
      cases written with
      | refused failure => exact fit.1
      | accepted found sameVersion stores =>
          have carries := Metadata.hasFinalizer_addFinalizer volume.metadata reconciler.finalizer
          exact fits_secured fit.1
            ⟨volume.name, _, fit.2.2, stores.find?_eq carries, carries⟩
  | guard attachment nodeId =>
      rcases answered with ⟨attachments, rfl, written⟩
      cases written with
      | refused failure => exact fit
      | @accepted stored version _ found sameVersion stores =>
          have carries : (reconciler.protectedAttachment attachment nodeId).metadata.hasFinalizer
              reconciler.finalizer := hasFinalizer_protectedAttachment attachment nodeId
          have sameName : (Versioned.stamped
              { reconciler.protectedAttachment attachment nodeId with status := stored.status }
              version).name = attachment.name := name_protectedAttachment attachment nodeId
          refine ⟨?_, carries, ?_⟩
          · rw [sameName]
            exact stores.find?_eq carries
          · exact isGuarded_of_spec_eq (spec_protectedAttachment attachment nodeId) fit.2
  | publish attachment request =>
      rw [show after = _ from answered]
      cases answer with
      | ok response => exact fit
      | error error => exact fit
  | @unpublish attachment carries request =>
      rw [show after = _ from answered]
      cases answer with
      | ok response => exact fits_withdrawn fit carries
      | error error =>
          simp only [afterUnpublishing]
          split
          · exact fits_withdrawn fit carries
          · exact fit
  | clear attachment =>
      rcases answered with ⟨attachments, rfl, written⟩
      cases written with
      | refused failure => trivial
      | @accepted stored version _ found sameVersion stores =>
          cases Option.some.inj (found.symm.trans fit.1)
          exact ⟨stores.find?_eq fit.2, fit.2⟩
  | survey volume =>
      rcases answered with ⟨rfl, rfl⟩
      simp only [afterSurvey]
      split
      · trivial
      next notInUse =>
          refine ⟨fit, ?_⟩
          intro name attachment found refers attached
          refine notInUse (List.any_eq_true.mpr ⟨attachment, Table.mem_values_of_find? found, ?_⟩)
          simp [refers, attached]
  | confirm _ _ | unguard _ | remark _ | release _ => trivial

theorem Effect.isNamed (effect : reconciler.Effect about stage before after)
    (named : before.IsNamed) : after.IsNamed := by
  cases effect with
  | same => exact named
  | call exposed => exact ⟨named.attachments, named.volumes⟩
  | attachment found stores writtenNamed spec attached kept =>
      refine ⟨?_, named.volumes⟩
      intro name attachment foundAfter
      rcases stores.eq_or_find? foundAfter with ⟨rfl, rfl⟩ | ⟨_, foundBefore⟩
      · exact writtenNamed
      · exact named.attachments foundBefore
  | shield stores writtenNamed carries =>
      refine ⟨named.attachments, ?_⟩
      intro name volume foundAfter
      rcases stores.eq_or_find? foundAfter with ⟨rfl, rfl⟩ | ⟨_, foundBefore⟩
      · exact writtenNamed
      · exact named.volumes foundBefore
  | release unused stores writtenNamed =>
      refine ⟨named.attachments, ?_⟩
      intro name volume foundAfter
      rcases stores.eq_or_find? foundAfter with ⟨rfl, rfl⟩ | ⟨_, foundBefore⟩
      · exact writtenNamed
      · exact named.volumes foundBefore

theorem fits_opening {name : String} {attachment : VolumeAttachment} (named : before.IsNamed)
    (found : Table.find? before.attachments name = some attachment) :
    reconciler.Fits before (opening attachment) := by
  cases named.attachments found
  unfold opening
  split
  · exact found
  · exact found

/-- A guarded volume is not disturbed by others. -/
theorem Undisturbed.isGuarded {attachment : VolumeAttachment}
    (undisturbed : reconciler.Undisturbed before after)
    (guarded : reconciler.IsGuarded before.volumes attachment) :
    reconciler.IsGuarded after.volumes attachment := by
  apply guarded.mono
  intro name volume _ found carries
  rcases undisturbed.volumes.stored_of_hasFinalizer found carries with
    ⟨kept, foundKept, _, keptCarries⟩
  exact ⟨kept, foundKept, keptCarries⟩

/-- A call that keeps to the moves keeps every law that no move breaks. The law may depend on the
stage of the call. -/
theorem Keeps.holds (law : Stage → Scene → Prop)
    (step : ∀ {stage request later answer before after}, reconciler.Move stage request later →
      Scene.Answered about request before answer after → before.IsNamed →
      reconciler.Fits before stage → reconciler.Effect about stage before after →
      law stage before → law (later answer) after)
    {action : Action Unit} {passed : List Scene} {result : Except Failure Unit}
    (keeps : reconciler.Keeps action stage)
    (runs : Program.Runs (Scene.Answered about) action.run before passed result)
    (named : before.IsNamed) (fit : reconciler.Fits before stage) (holds : law stage before) :
    ∀ scene ∈ passed, scene.IsNamed ∧ ∃ reached, law reached scene := by
  have upheld : Program.Upheld reconciler.Move (Scene.Answered about) fun stage scene =>
      scene.IsNamed ∧ reconciler.Fits scene stage ∧ law stage scene := by
    rintro stage request later move before answer after ⟨named, fit, holds⟩ answered
    have effect := move.effect named fit answered
    exact ⟨effect.isNamed named, move.fits named fit answered,
      step move answered named fit effect holds⟩
  intro scene sceneMem
  rcases (runs.fits upheld keeps ⟨named, fit, holds⟩).1 scene sceneMem with
    ⟨reached, named, _, holds⟩
  exact ⟨named, reached, holds⟩

/-- Whatever happens keeps every law that no effect and no change by others breaks. -/
theorem Occurs.holds (law : Scene → Prop)
    (effects : ∀ {about stage before after}, reconciler.Effect about stage before after →
      reconciler.Fits before stage → law before → law after)
    (changes : ∀ {before after}, reconciler.Undisturbed before after → law before → law after)
    {occurrence : Occurrence} {passed : List Scene}
    (occurs : reconciler.Occurs before occurrence passed) (named : before.IsNamed)
    (holds : law before) : ∀ scene ∈ passed, scene.IsNamed ∧ law scene := by
  have calls {about : Option String} {stage : Stage} {action : Action Unit}
      {result : Except Failure Unit} (keeps : reconciler.Keeps action stage)
      (runs : Program.Runs (Scene.Answered about) action.run before passed result)
      (fit : reconciler.Fits before stage) : ∀ scene ∈ passed, scene.IsNamed ∧ law scene := by
    intro scene sceneMem
    rcases keeps.holds (fun _ => law) (fun _ _ _ fit effect => effects effect fit) runs named fit
      holds scene sceneMem with ⟨named, _, holds⟩
    exact ⟨named, holds⟩
  cases occurs with
  | attachment found runs => exact calls (syncAttachment_keeps _) runs (fits_opening named found)
  | @volume name volume passed result found runs =>
      cases named.volumes found
      exact calls (syncVolume_keeps volume) runs found
  | everything runs => exact calls reconcileAll_keeps runs trivial
  | change undisturbed =>
      intro scene sceneMem
      cases List.mem_singleton.mp sceneMem
      exact ⟨undisturbed.named, changes undisturbed holds⟩

/-- Objects stay stored under their own names. -/
theorem Occurs.isNamed {occurrence : Occurrence} {passed : List Scene}
    (occurs : reconciler.Occurs before occurrence passed) (named : before.IsNamed) :
    ∀ scene ∈ passed, scene.IsNamed := by
  intro scene sceneMem
  have known := occurs.holds (fun _ => True) (fun _ _ _ => trivial) (fun _ _ => trivial) named
    trivial scene sceneMem
  exact known.1

end Reconciler

end VolumeAttacher.Reconcile
