import VolumeAttacher.Proofs.Cluster.Writes
import VolumeAttacher.Proofs.Reconcile.Action

/-!
# Runs of complete calls

Calls of a reconciler are made one after another, each on an object as it is stored, and between
them the cluster changes in other ways. What a law about such runs can depend on is kept in a
`Scene`: the stored attachments and volumes, and of which attachments the volume may be published by
the driver. Nodes, secrets, the time, the driver and the refusal of writes are not in the scene:
they may be different at every request.
-/

namespace VolumeAttacher.Reconcile

/-- The state of the surroundings of a run. -/
structure Scene where
  attachments : Table VolumeAttachment
  volumes : Table PersistentVolume
  /-- Whether the volume of an attachment may be published, by the name of the attachment. -/
  isExposed : String → Bool

namespace Scene

/-- A scene after the answer to a request of the work on an attachment. -/
def exposing (scene : Scene) (about : Option String) (request : Request)
    (answer : request.Answer) : Scene where
  attachments := scene.attachments
  volumes := scene.volumes
  isExposed name :=
    if about = some name then exposedAfter (scene.isExposed name) request answer
    else scene.isExposed name

/-- How a request may be answered in a scene. Attachments and volumes are read as they are stored,
and every other answer is possible at any time. -/
def Answered (about : Option String) :
    (request : Request) → Scene → request.Answer → Scene → Prop
  | .attachment name, before, answer, after =>
      answer = Table.find? before.attachments name ∧ after = before
  | .attachments, before, answer, after =>
      answer = Table.values before.attachments ∧ after = before
  | .volume name, before, answer, after =>
      answer = Table.find? before.volumes name ∧ after = before
  | .volumes, before, answer, after => answer = Table.values before.volumes ∧ after = before
  | .writeAttachment old new, before, answer, after =>
      ∃ attachments, after = { before with attachments } ∧
        before.attachments.Written old.name old (fun stored => { new with status := stored.status })
          answer attachments
  | .writeStatus old new, before, answer, after =>
      ∃ attachments, after = { before with attachments } ∧
        before.attachments.Written old.name old (fun stored => { stored with status := new.status })
          answer attachments
  | .writeVolume old new, before, answer, after =>
      ∃ volumes, after = { before with volumes } ∧
        before.volumes.Written old.name old (fun _ => new) answer volumes
  | request, before, answer, after => after = before.exposing about request answer

/-- A request that only looks at things leaves the scene as it is. -/
theorem Answered.eq_of_isLook {about : Option String} {request : Request} {before after : Scene}
    {answer : request.Answer} (answered : Answered about request before answer after)
    (isLook : request.isLook) : after = before := by
  have unexposed (same : ∀ exposed, exposedAfter exposed request answer = exposed) :
      before.exposing about request answer = before := by
    simp [exposing, same]
  cases request with
  | attachment _ | attachments | volume _ | volumes => exact answered.2
  | writeAttachment _ _ | writeStatus _ _ | writeVolume _ _ => contradiction
  | csiNode _ | node _ | secret _ _ | currentTime | enqueue _ _ | retry _ _ | forget _ _ =>
      exact answered.trans (unexposed fun _ => rfl)
  | call call =>
      cases call with
      | publish _ | unpublish _ => contradiction
      | list _ => exact answered.trans (unexposed fun _ => rfl)

/-- Whether every object is stored under its own name. -/
structure IsNamed (scene : Scene) : Prop where
  attachments : ∀ {name attachment}, Table.find? scene.attachments name = some attachment →
    attachment.name = name
  volumes : ∀ {name volume}, Table.find? scene.volumes name = some volume → volume.name = name

theorem getLastD_mem_of_ne {passed : List Scene} {before : Scene}
    (different : passed.getLastD before ≠ before) : passed.getLastD before ∈ passed := by
  rcases List.mem_cons.mp (List.getLastD_mem_cons (l := passed) (a := before)) with same | lastMem
  · exact absurd same different
  · exact lastMem

end Scene

/-- Whether the stored objects of a kind are changed in such a way that a finalizer stays on them.
Objects may be added, and objects without finalizers may be dropped. -/
structure Spares {α : Type} [Versioned α] (finalizer : String) (kept : α → α → Prop)
    (fresh : α → Prop) (before after : Table α) : Prop where
  stored : ∀ {name object}, Table.find? before name = some object →
    (∃ later, Table.find? after name = some later ∧ kept object later ∧
      ((Versioned.metadata object).hasFinalizer finalizer →
        (Versioned.metadata later).hasFinalizer finalizer)) ∨
    (Versioned.metadata object).finalizerList = [] ∧ Table.find? after name = none
  added : ∀ {name object}, Table.find? before name = none → Table.find? after name = some object →
    fresh object

/-- What carries a finalizer is not dropped by others. -/
theorem Spares.stored_of_hasFinalizer {α : Type} [Versioned α] {finalizer name : String}
    {kept : α → α → Prop} {fresh : α → Prop} {before after : Table α} {object : α}
    (spares : Spares finalizer kept fresh before after)
    (found : Table.find? before name = some object)
    (carries : (Versioned.metadata object).hasFinalizer finalizer) :
    ∃ later, Table.find? after name = some later ∧ kept object later ∧
      (Versioned.metadata later).hasFinalizer finalizer := by
  rcases spares.stored found with ⟨later, foundLater, isKept, keeps⟩ | ⟨finished, _⟩
  · exact ⟨later, foundLater, isKept, keeps carries⟩
  · simp [Metadata.hasFinalizer, finished] at carries

namespace Reconciler

variable (reconciler : Reconciler)

/-- A change of the cluster by others, which leaves alone the finalizer, what attachments ask for,
and whether they are attached. -/
structure Undisturbed (before after : Scene) : Prop where
  attachments : Spares reconciler.finalizer
    (fun old new => new.spec = old.spec ∧ (new.isAttached → old.isAttached))
    (fun new => reconciler.isAddressee new → ¬new.isAttached) before.attachments after.attachments
  volumes : Spares reconciler.finalizer (fun _ _ => True) (fun _ => True) before.volumes
    after.volumes
  named : after.IsNamed
  isExposed : after.isExposed = before.isExposed

/-- What happens next in a run. -/
inductive Occurrence where
  | attachment (name : String) (result : Except Failure Unit)
  | volume (name : String) (result : Except Failure Unit)
  | everything (result : Except Failure Unit)
  | change

/-- Whether something can happen in a scene, with the scenes that are passed. -/
inductive Occurs (before : Scene) : Occurrence → List Scene → Prop
  | attachment {name : String} {attachment : VolumeAttachment} {passed : List Scene}
      {result : Except Failure Unit}
      (found : Table.find? before.attachments name = some attachment)
      (runs : Program.Runs (Scene.Answered (some name)) (reconciler.syncAttachment attachment).run
        before passed result) :
      Occurs before (.attachment name result) passed
  | volume {name : String} {volume : PersistentVolume} {passed : List Scene}
      {result : Except Failure Unit} (found : Table.find? before.volumes name = some volume)
      (runs : Program.Runs (Scene.Answered none) (reconciler.syncVolume volume).run before passed
        result) :
      Occurs before (.volume name result) passed
  | everything {passed : List Scene} {result : Except Failure Unit}
      (runs : Program.Runs (Scene.Answered none) reconciler.reconcileAll.run before passed result) :
      Occurs before (.everything result) passed
  | change {after : Scene} (undisturbed : reconciler.Undisturbed before after) :
      Occurs before .change [after]

/-- A round of a run: the scene in which it begins, what happens, and the scenes that are passed,
one after each request. -/
structure Round where
  before : Scene
  occurrence : Occurrence
  passed : List Scene

/-- The runs that begin in a scene, as the list of their rounds. -/
inductive Run : Scene → List Round → Prop
  | rest (scene : Scene) : Run scene []
  | next {before : Scene} {occurrence : Occurrence} {passed : List Scene} {rounds : List Round}
      (occurs : reconciler.Occurs before occurrence passed)
      (later : Run (passed.getLastD before) rounds) :
      Run before (⟨before, occurrence, passed⟩ :: rounds)

variable {reconciler}

theorem Run.occurs {initial : Scene} {rounds : List Round} (run : reconciler.Run initial rounds) :
    ∀ round ∈ rounds, reconciler.Occurs round.before round.occurrence round.passed := by
  induction run with
  | rest scene => simp
  | next occurs later ih =>
      intro round roundMem
      rcases List.mem_cons.mp roundMem with rfl | roundLater
      · exact occurs
      · exact ih round roundLater

/-- A property that no round breaks, holds throughout every run. It may be known of the rounds that
they are of some sort. -/
theorem Run.holds (holds : Scene → Prop) (sort : Round → Prop)
    (step : ∀ {before occurrence passed}, reconciler.Occurs before occurrence passed →
      sort ⟨before, occurrence, passed⟩ → holds before → ∀ scene ∈ passed, holds scene)
    {initial : Scene} {rounds : List Round} (run : reconciler.Run initial rounds)
    (sorted : ∀ round ∈ rounds, sort round) (begins : holds initial) :
    ∀ round ∈ rounds, holds round.before ∧ ∀ scene ∈ round.passed, holds scene := by
  induction run with
  | rest scene => simp
  | @next before occurrence passed rounds occurs later ih =>
      have holdsPassed := step occurs (sorted _ List.mem_cons_self) begins
      have holdsLast : holds (passed.getLastD before) := by
        by_cases same : passed.getLastD before = before
        · rw [same]
          exact begins
        · exact holdsPassed _ (Scene.getLastD_mem_of_ne same)
      intro round roundMem
      rcases List.mem_cons.mp roundMem with rfl | roundLater
      · exact ⟨begins, holdsPassed⟩
      · exact ih (fun other otherMem => sorted other (List.mem_cons_of_mem _ otherMem)) holdsLast
          round roundLater

end Reconciler

end VolumeAttacher.Reconcile
