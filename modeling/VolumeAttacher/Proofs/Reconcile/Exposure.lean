import VolumeAttacher.Proofs.Cluster.Simulated
import VolumeAttacher.Proofs.Reconcile.Effects

/-!
# Volumes that may be published

The driver may have published the volume of an attachment although the attachment is not marked as
attached: an attach call that times out, for one. The work on attachments heeds this, and so the
attachment and its volume carry the finalizer of the attacher for as long as the volume may be
published. The work on volumes looks only at the marks. So a run of complete calls keeps the volumes
that may be published protected if, and only if, no work on a volume in it succeeds although the
volume may be published, the volume is deleted or has been handed to another driver, and no
attachment of it is marked.
-/

namespace VolumeAttacher.Reconcile

namespace Reconciler

variable (reconciler : Reconciler)

/-- Whether every attachment whose volume may be published is stored and has a guarded volume. -/
def GuardsExposed (scene : Scene) : Prop :=
  ∀ name, scene.isExposed name → ∃ attachment,
    Table.find? scene.attachments name = some attachment ∧
      reconciler.IsGuarded scene.volumes attachment

/-- Whether the attachments whose volumes may be published, carry the finalizer besides. -/
def HoldsExposed (scene : Scene) : Prop :=
  ∀ name, scene.isExposed name → ∃ attachment,
    Table.find? scene.attachments name = some attachment ∧
      attachment.metadata.hasFinalizer reconciler.finalizer ∧
      reconciler.IsGuarded scene.volumes attachment

/-- Whether a call is the work on an attachment of a name, and the volume is not published once the
driver has said so. The work on volumes is not of this sort. -/
def Attends (about : Option String) (scene : Scene) : Stage → Prop
  | .attaching attachment | .found attachment _ | .shielded attachment | .guarded attachment
  | .published attachment | .detaching attachment => about = some attachment.name
  | .unpublished attachment | .cleared attachment =>
      about = some attachment.name ∧ scene.isExposed attachment.name = false
  | .releasing _ | .unused _ => False
  | .resting => True

/-- Whether the work on a volume takes the finalizer off, if this is not refused: the volume carries
it, is to be deleted or not the driver's, and no attachment of it is marked as attached. -/
structure IsReleasable (scene : Scene) (volume : PersistentVolume) : Prop where
  carries : volume.metadata.hasFinalizer reconciler.finalizer
  unwanted : volume.metadata.isDeleting ∨ ¬volume.isOwnedBy reconciler.driver
  unmarked : isInUse volume.name (Table.values scene.attachments) = false

/-- Whether a round is successful work on a volume that may be published and is releasable. -/
def ReleasesExposed (round : Round) : Prop :=
  ∃ name volume attachmentName attachment, round.occurrence = .volume name (.ok ()) ∧
    Table.find? round.before.volumes name = some volume ∧
    reconciler.IsReleasable round.before volume ∧ round.before.isExposed attachmentName ∧
    Table.find? round.before.attachments attachmentName = some attachment ∧
    attachment.volumeName? = some name

variable {reconciler} {about : Option String} {stage : Stage} {before after : Scene}

/-- The work on a volume as a program. -/
theorem syncVolume_run (reconciler : Reconciler) (volume : PersistentVolume) :
    (reconciler.syncVolume volume).run =
      if !reconciler.ready then Program.done (.error (.settings .notReady))
      else if !volume.metadata.hasFinalizer reconciler.finalizer ||
          (!volume.metadata.isDeleting && volume.isOwnedBy reconciler.driver) then
        Program.ask (.forget .volumes volume.name) fun _ => Program.done (.ok ())
      else
        Program.ask .attachments fun attachments =>
          if isInUse volume.name attachments then
            Program.ask (.forget .volumes volume.name) fun _ => Program.done (.ok ())
          else
            Program.ask (.writeVolume volume
                { volume with metadata := volume.metadata.removeFinalizer reconciler.finalizer })
              fun
              | .ok _ => Program.ask (.forget .volumes volume.name) fun _ => Program.done (.ok ())
              | .error failure =>
                  Program.ask (.retry .volumes volume.name) fun _ =>
                    Program.done (.error failure) := by
  unfold syncVolume requireQueues
  cases reconciler.ready with
  | false => rfl
  | true =>
      unfold releaseVolume
      cases volume.metadata.hasFinalizer reconciler.finalizer with
      | false => rfl
      | true =>
          cases !volume.metadata.isDeleting && volume.isOwnedBy reconciler.driver with
          | true => rfl
          | false =>
              change Program.ask _ _ = Program.ask _ _
              congr 1
              funext attachments
              change Program.bind (Program.bind
                (ite (isInUse volume.name attachments = true) _ _ : Action Unit) _) _ = _
              split
              · rfl
              · change Program.ask _ _ = Program.ask _ _
                congr 1
                funext answer
                cases answer with
                | ok _ => rfl
                | error _ => rfl

theorem runs_look {request : Request} (isLook : request.isLook) {ended result : Except Failure Unit}
    {passed : List Scene}
    (runs : Program.Runs (Scene.Answered about) (Program.ask request fun _ => Program.done ended)
      before passed result) : passed = [before] ∧ result = ended := by
  rcases Program.runs_ask.mp runs with ⟨_, after, states, answered, rfl, rest⟩
  rcases Program.runs_done.mp rest with ⟨rfl, rfl⟩
  rw [answered.eq_of_isLook isLook]
  exact ⟨rfl, rfl⟩

/-- The work on a volume changes nothing, or it succeeds in taking the finalizer off. The latter is
so if it succeeds and the volume is releasable. -/
theorem syncVolume_passes {volume : PersistentVolume} {passed : List Scene}
    {result : Except Failure Unit}
    (runs : Program.Runs (Scene.Answered none) (reconciler.syncVolume volume).run before passed
      result) :
    (∀ scene ∈ passed, scene = before) ∧
        ¬(result = .ok () ∧ reconciler.IsReleasable before volume) ∨
      result = .ok () ∧ reconciler.IsReleasable before volume ∧ ∃ version volumes,
        before.volumes.Stores volume.name
          (Versioned.stamped { volume with
            metadata := volume.metadata.removeFinalizer reconciler.finalizer } version) volumes ∧
        passed = [before, { before with volumes }, { before with volumes }] := by
  rw [syncVolume_run] at runs
  split at runs
  · rcases Program.runs_done.mp runs with ⟨rfl, rfl⟩
    exact Or.inl ⟨by simp, by simp⟩
  split at runs
  next needless =>
      rcases runs_look rfl runs with ⟨rfl, rfl⟩
      refine Or.inl ⟨by simp, ?_⟩
      rintro ⟨_, releasable⟩
      rcases releasable.unwanted with deleting | foreign
      · simp [releasable.carries, deleting] at needless
      · simp [releasable.carries, foreign] at needless
  next needed =>
      rcases Program.runs_ask.mp runs with ⟨attachments, after, states, answered, rfl, rest⟩
      rcases answered with ⟨rfl, rfl⟩
      split at rest
      next inUse =>
          rcases runs_look rfl rest with ⟨rfl, rfl⟩
          refine Or.inl ⟨by simp, ?_⟩
          rintro ⟨_, releasable⟩
          rw [releasable.unmarked] at inUse
          contradiction
      next notInUse =>
          rcases Program.runs_ask.mp rest with
            ⟨answer, _, states, ⟨volumes, rfl, written⟩, rfl, rest⟩
          cases written with
          | refused failure =>
              rcases runs_look rfl rest with ⟨rfl, rfl⟩
              exact Or.inl ⟨by simp, by simp⟩
          | @accepted stored version _ found sameVersion stores =>
              rcases runs_look rfl rest with ⟨rfl, rfl⟩
              simp only [Bool.or_eq_true, Bool.and_eq_true, Bool.not_eq_true', not_or, not_and,
                Bool.not_eq_false] at needed
              refine Or.inr ⟨rfl, ⟨needed.1, ?_, ?_⟩, version, volumes, stores, rfl⟩
              · cases deleting : volume.metadata.isDeleting with
                | true => exact Or.inl rfl
                | false => exact Or.inr (needed.2 deleting)
              · exact Bool.eq_false_iff.mpr notInUse

theorem HoldsExposed.guardsExposed {scene : Scene} (holds : reconciler.HoldsExposed scene) :
    reconciler.GuardsExposed scene := by
  intro name exposed
  rcases holds name exposed with ⟨attachment, found, _, guarded⟩
  exact ⟨attachment, found, guarded⟩

theorem Effect.holdsExposed (effect : reconciler.Effect about stage before after)
    (named : before.IsNamed) (fit : reconciler.Fits before stage)
    (attends : Attends about before stage) (holds : reconciler.HoldsExposed before) :
    reconciler.HoldsExposed after := by
  cases effect with
  | same => exact holds
  | call exposed =>
      intro name exposedAfter
      rcases exposed name exposedAfter with exposedBefore | ⟨isAbout, attachment, rfl⟩
      · exact holds name exposedBefore
      · cases isAbout.symm.trans attends
        exact ⟨attachment, fit⟩
  | @attachment name stored written attachments found stores writtenNamed spec attached kept =>
      intro other exposed
      rcases holds other exposed with ⟨attachment, foundOther, carries, guarded⟩
      by_cases same : other = name
      · subst same
        cases Option.some.inj (found.symm.trans foundOther)
        rcases kept carries with writtenCarries | rfl
        · exact ⟨written, stores.find?_eq writtenCarries, writtenCarries,
            isGuarded_of_spec_eq spec guarded⟩
        · have unexposed := attends.2
          rw [named.attachments found] at unexposed
          exact absurd (unexposed.symm.trans exposed) Bool.false_ne_true
      · exact ⟨attachment, (stores.others other same).trans foundOther, carries, guarded⟩
  | shield stores writtenNamed writtenCarries =>
      intro name exposed
      rcases holds name exposed with ⟨attachment, found, carries, guarded⟩
      exact ⟨attachment, found, carries, guarded.shield stores writtenCarries⟩
  | release unused stores writtenNamed =>
      subst unused
      contradiction

theorem attends_secured {scene : Scene} {attachment : VolumeAttachment}
    (isAbout : about = some attachment.name) :
    Attends about scene (reconciler.secured attachment) := by
  unfold secured
  split
  · exact isAbout
  · exact isAbout

theorem attends_withdrawn {scene : Scene} {attachment : VolumeAttachment}
    (isAbout : about = some attachment.name) (unexposed : scene.isExposed attachment.name = false) :
    Attends about scene (withdrawn attachment) := by
  unfold withdrawn
  split
  · exact ⟨isAbout, unexposed⟩
  · exact ⟨isAbout, unexposed⟩

theorem Move.attends {request : Request} {later : request.Answer → Stage}
    {answer : request.Answer} (move : reconciler.Move stage request later)
    (fit : reconciler.Fits before stage)
    (answered : Scene.Answered about request before answer after)
    (attends : Attends about before stage) : Attends about after (later answer) := by
  cases move with
  | look isLook =>
      rw [answered.eq_of_isLook isLook]
      exact attends
  | find refers =>
      cases answer with
      | none => exact attends
      | some volume =>
          simp only [afterLookup]
          split
          · exact attends_secured attends
          · exact attends
  | shield attachment volume =>
      cases answer with
      | ok stored => exact attends_secured attends
      | error failure => exact attends
  | guard attachment nodeId =>
      rcases answered with ⟨attachments, rfl, written⟩
      cases written with
      | refused failure => exact attends
      | accepted found sameVersion stores =>
          exact attends.trans
            (congrArg some (name_protectedAttachment attachment nodeId)).symm
  | publish attachment request =>
      cases answer with
      | ok response => exact attends
      | error error => exact attends
  | @unpublish attachment carries request =>
      rw [show after = _ from answered]
      have unexposed (settled : ∀ exposed, exposedAfter exposed _ answer = false) :
          (before.exposing about _ answer).isExposed attachment.name = false := by
        simp [Scene.exposing, show about = some attachment.name from attends, settled]
      cases answer with
      | ok response => exact attends_withdrawn attends (unexposed fun _ => rfl)
      | error error =>
          simp only [afterUnpublishing]
          split
          next isFinal =>
              exact attends_withdrawn attends (unexposed fun _ => by simp [exposedAfter, isFinal])
          next => exact attends
  | clear attachment =>
      rcases answered with ⟨attachments, rfl, written⟩
      cases written with
      | refused failure => trivial
      | accepted found sameVersion stores =>
          cases Option.some.inj (found.symm.trans fit.1)
          exact attends
  | survey _ | release _ => contradiction
  | confirm _ _ | unguard _ | remark _ => trivial

theorem Undisturbed.holdsExposed (undisturbed : reconciler.Undisturbed before after)
    (holds : reconciler.HoldsExposed before) : reconciler.HoldsExposed after := by
  intro name exposed
  rw [undisturbed.isExposed] at exposed
  rcases holds name exposed with ⟨attachment, found, carries, guarded⟩
  rcases undisturbed.attachments.stored_of_hasFinalizer found carries with
    ⟨kept, foundKept, ⟨spec, _⟩, keptCarries⟩
  exact ⟨kept, foundKept, keptCarries, isGuarded_of_spec_eq spec (undisturbed.isGuarded guarded)⟩

theorem Keeps.holdsExposed {action : Action Unit} {passed : List Scene}
    {result : Except Failure Unit} (keeps : reconciler.Keeps action stage)
    (runs : Program.Runs (Scene.Answered about) action.run before passed result)
    (named : before.IsNamed) (fit : reconciler.Fits before stage)
    (attends : Attends about before stage) (holds : reconciler.HoldsExposed before) :
    ∀ scene ∈ passed, scene.IsNamed ∧ reconciler.HoldsExposed scene := by
  intro scene sceneMem
  rcases keeps.holds (fun stage scene => Attends about scene stage ∧ reconciler.HoldsExposed scene)
    (fun move answered named fit effect law =>
      ⟨move.attends fit answered law.1, effect.holdsExposed named fit law.1 law.2⟩)
    runs named fit ⟨attends, holds⟩ scene sceneMem with ⟨named, _, _, holds⟩
  exact ⟨named, holds⟩

/-- Whatever happens keeps what may be published protected, unless it is work on a volume that may
be published and is releasable. -/
theorem Occurs.holdsExposed {occurrence : Occurrence} {passed : List Scene}
    (occurs : reconciler.Occurs before occurrence passed)
    (releases : ¬reconciler.ReleasesExposed ⟨before, occurrence, passed⟩) (named : before.IsNamed)
    (holds : reconciler.HoldsExposed before) :
    ∀ scene ∈ passed, scene.IsNamed ∧ reconciler.HoldsExposed scene := by
  cases occurs with
  | @attachment name attachment passed result found runs =>
      have attends : Attends (some name) before (opening attachment) := by
        cases named.attachments found
        unfold opening
        split
        · rfl
        · rfl
      exact (syncAttachment_keeps attachment).holdsExposed runs named (fits_opening named found)
        attends holds
  | @volume name volume passed result found runs =>
      cases named.volumes found
      rcases syncVolume_passes runs with
        ⟨same, _⟩ | ⟨rfl, releasable, version, volumes, stores, rfl⟩
      · intro scene sceneMem
        rw [same scene sceneMem]
        exact ⟨named, holds⟩
      · have released : Scene.IsNamed { before with volumes } ∧
            reconciler.HoldsExposed { before with volumes } := by
          refine ⟨⟨named.attachments, ?_⟩, ?_⟩
          · intro name other foundOther
            rcases stores.eq_or_find? foundOther with ⟨rfl, rfl⟩ | ⟨_, foundBefore⟩
            · rfl
            · exact named.volumes foundBefore
          · intro name exposed
            rcases holds name exposed with ⟨attachment, foundAttachment, carries, guarded⟩
            refine ⟨attachment, foundAttachment, carries, guarded.mono ?_⟩
            intro other kept refers foundKept keptCarries
            have different : other ≠ volume.name := by
              rintro rfl
              exact releases ⟨_, volume, name, attachment, rfl, found, releasable, exposed,
                foundAttachment, refers⟩
            exact ⟨kept, (stores.others other different).trans foundKept, keptCarries⟩
        intro scene sceneMem
        simp only [List.mem_cons, List.not_mem_nil, or_false] at sceneMem
        rcases sceneMem with rfl | rfl | rfl
        · exact ⟨named, holds⟩
        · exact released
        · exact released
  | everything runs =>
      exact reconcileAll_keeps.holdsExposed runs named trivial trivial holds
  | change undisturbed =>
      intro scene sceneMem
      cases List.mem_singleton.mp sceneMem
      exact ⟨undisturbed.named, undisturbed.holdsExposed holds⟩

/-- In a run of complete calls on stored objects, mixed with changes by others, that begins before
any volume may be published, the volumes of all attachments that may be published are stored with
the finalizer at any time, if and only if no work on such a volume succeeds although it is
releasable. -/
theorem Run.guardsExposed_iff {initial : Scene} {rounds : List Round}
    (run : reconciler.Run initial rounds) (named : initial.IsNamed)
    (unexposed : ∀ name, initial.isExposed name = false) :
    (∀ round ∈ rounds, ∀ scene ∈ round.passed, reconciler.GuardsExposed scene) ↔
      ∀ round ∈ rounds, ¬reconciler.ReleasesExposed round := by
  constructor
  · rintro guards round roundMem
      ⟨name, volume, attachmentName, attachment, occurrence, found, releasable, exposed,
        foundAttachment, refers⟩
    have namedBefore := (run.holds Scene.IsNamed (fun _ => True)
      (fun occurs _ named => occurs.isNamed named) (fun _ _ => trivial) named round roundMem).1
    have occurs := run.occurs round roundMem
    rw [occurrence] at occurs
    generalize passedEq : round.passed = passed at occurs
    cases occurs with
    | @volume _ other _ _ foundOther runs =>
        cases Option.some.inj (found.symm.trans foundOther)
        cases namedBefore.volumes found
        rcases syncVolume_passes runs with ⟨_, unreleased⟩ | ⟨_, _, version, volumes, stores, rfl⟩
        · exact unreleased ⟨rfl, releasable⟩
        · have guarded := guards round roundMem { round.before with volumes } (by simp [passedEq])
          rcases guarded attachmentName exposed with
            ⟨same, foundSame, referred, kept, refersToo, foundKept, carries⟩
          cases Option.some.inj (foundAttachment.symm.trans foundSame)
          cases Option.some.inj (refers.symm.trans refersToo)
          rcases stores.eq_or_find? foundKept with ⟨_, rfl⟩ | ⟨different, _⟩
          · exact absurd carries (Bool.eq_false_iff.mp (Metadata.hasFinalizer_removeFinalizer _ _))
          · exact different rfl
  · intro unreleased round roundMem scene sceneMem
    have holds := run.holds (fun scene => scene.IsNamed ∧ reconciler.HoldsExposed scene)
      (fun round => ¬reconciler.ReleasesExposed round)
      (fun occurs releases known => occurs.holdsExposed releases known.1 known.2) unreleased
      ⟨named, fun name exposed => by simp [unexposed name] at exposed⟩
    exact ((holds round roundMem).2 scene sceneMem).2.guardsExposed

open Simulation

def slowDriver : Script where
  publish := [.error (.rpc .deadlineExceeded "slow driver")]

/-- While nobody works on the volume, it is guarded after an attach call that took too long. -/
theorem guardsExposed_after_timeout : ∃ rounds scene,
    smallReconciler.Run (smallCluster slowDriver).scene rounds ∧
      (∃ round ∈ rounds, scene ∈ round.passed) ∧ scene.isExposed "va-1" ∧
      smallReconciler.GuardsExposed scene := by
  rcases occurs_smallAttachment slowDriver with ⟨_, passed, occurs, last⟩
  have exposed : (smallOutcome slowDriver).scene.isExposed "va-1" := by decide +kernel
  rw [← last] at exposed
  have run := Run.next occurs (.rest _)
  have guards := (run.guardsExposed_iff (smallCluster_isNamed slowDriver) fun _ => rfl).mpr (by
    rintro round roundMem ⟨name, volume, attachmentName, attachment, isVolume, _⟩
    cases List.mem_singleton.mp roundMem
    contradiction)
  have lastMem := Scene.getLastD_mem_of_ne fun same => by
    rw [same] at exposed
    contradiction
  exact ⟨_, _, run, ⟨_, List.mem_singleton_self _, lastMem⟩, exposed,
    guards _ (List.mem_singleton_self _) _ lastMem⟩

theorem undisturbed_insert {scene : Scene} {name : String} {old new : PersistentVolume}
    (named : scene.IsNamed) (found : Table.find? scene.volumes name = some old)
    (newName : new.name = name)
    (keeps : old.metadata.hasFinalizer reconciler.finalizer →
      new.metadata.hasFinalizer reconciler.finalizer) :
    reconciler.Undisturbed scene { scene with volumes := Table.insert scene.volumes name new } where
  attachments :=
    { stored := fun found => Or.inl ⟨_, found, ⟨rfl, id⟩, id⟩
      added := fun missing found => by
        rw [missing] at found
        contradiction }
  volumes :=
    { stored := by
        intro other volume foundOther
        left
        rw [Table.find?_insert]
        by_cases same : other = name
        · subst same
          cases Option.some.inj (found.symm.trans foundOther)
          exact ⟨new, if_pos rfl, trivial, keeps⟩
        · exact ⟨volume, (if_neg same).trans foundOther, trivial, id⟩
      added := fun _ _ => trivial }
  named := by
    refine ⟨named.attachments, ?_⟩
    intro other volume foundOther
    rw [Table.find?_insert] at foundOther
    split at foundOther
    next same =>
        cases foundOther
        rw [same, newName]
    next => exact named.volumes foundOther
  isExposed := rfl

theorem not_guardsExposed {scene : Scene} (name volumeName : String)
    (exposed : scene.isExposed name)
    (refers : (Table.find? scene.attachments name).bind VolumeAttachment.volumeName? =
      some volumeName)
    (missing : Table.find? scene.volumes volumeName = none) :
    ¬reconciler.GuardsExposed scene := by
  intro guards
  rcases guards name exposed with ⟨attachment, found, other, volume, refersOther, foundVolume, _⟩
  rw [found] at refers
  cases Option.some.inj (refersOther.symm.trans refers)
  rw [missing] at foundVolume
  contradiction

def deletedVolume : PersistentVolume :=
  { smallVolume with
    metadata :=
      { smallVolume.metadata.addFinalizer smallReconciler.finalizer with
        deletionTimestamp := some { seconds := 1717200000, nanoseconds := 0 } } }

/-- The small cluster when the deletion of the volume has been asked for after an attach call that
took too long. -/
def afterDeletion : Observed where
  world :=
    let world := (smallOutcome slowDriver).world
    { world with store := world.store.putVolume deletedVolume }
  isExposed := (smallOutcome slowDriver).isExposed

theorem smallOutcome_isNamed (script : Script) : (smallOutcome script).scene.IsNamed := by
  rcases occurs_smallAttachment script with ⟨_, passed, occurs, last⟩
  have named := smallCluster_isNamed script
  rw [← last]
  by_cases same : passed.getLastD (smallCluster script).scene = (smallCluster script).scene
  · rw [same]
    exact named
  · exact occurs.isNamed named _ (Scene.getLastD_mem_of_ne same)

/-- After an attach call that took too long, a volume that is deleted disappears, although the
driver may have published it. -/
theorem exists_unguarded_after_timeout : ∃ rounds,
    smallReconciler.Run (smallCluster slowDriver).scene rounds ∧
      ∃ round ∈ rounds, ∃ scene ∈ round.passed, ¬smallReconciler.GuardsExposed scene := by
  rcases occurs_smallAttachment slowDriver with ⟨_, passed, occurs, last⟩
  have kept : (Table.find? (smallOutcome slowDriver).scene.volumes "pv-1").isSome := by
    decide +kernel
  rcases Option.isSome_iff_exists.mp kept with ⟨old, found⟩
  have disturbed : smallReconciler.Undisturbed (smallOutcome slowDriver).scene
      afterDeletion.scene :=
    undisturbed_insert (smallOutcome_isNamed slowDriver) found rfl fun _ => by decide +kernel
  have foundDeleted : Table.find? afterDeletion.scene.volumes "pv-1" =
      some (Versioned.stamped deletedVolume "3") := by
    decide +kernel
  rcases afterDeletion.occurs_volume smallReconciler foundDeleted with
    ⟨released, occursRelease, lastRelease⟩
  have dropped : Table.find? (afterDeletion.perform none
      (smallReconciler.syncVolume (Versioned.stamped deletedVolume "3"))).2.scene.volumes "pv-1" =
      none := by
    decide +kernel
  have unguarded : ¬smallReconciler.GuardsExposed (afterDeletion.perform none
      (smallReconciler.syncVolume (Versioned.stamped deletedVolume "3"))).2.scene :=
    not_guardsExposed "va-1" "pv-1" (by decide +kernel) (by decide +kernel) dropped
  rw [← lastRelease] at dropped unguarded
  have later := Run.next (.change disturbed) (Run.next occursRelease (.rest _))
  have run := Run.next occurs
    ((congrArg (fun scene => smallReconciler.Run scene _) last).mpr later)
  refine ⟨_, run, _, List.mem_cons_of_mem _ (List.mem_cons_of_mem _ List.mem_cons_self), ?_⟩
  have lastMem := Scene.getLastD_mem_of_ne fun same => by
    rw [same, foundDeleted] at dropped
    contradiction
  exact ⟨_, lastMem, unguarded⟩

end Reconciler

end VolumeAttacher.Reconcile
