import VolumeAttacher.Proofs.Cluster.Scene
import VolumeAttacher.Simulation.World

/-!
# The simulated cluster as surroundings

The simulated cluster and driver answer requests in one of the ways in which surroundings may answer
them, so that simulations are runs of which the laws speak.
-/

namespace VolumeAttacher.Simulation

open Reconcile

section Shelf

variable {α : Type} [Versioned α] {shelf : Shelf α} {name : String} {fault : Fault}
  {old stored : α}

/-- A write that is not refused applies to the stored object, which is in the version that the write
was computed from. -/
theorem target_eq_ok (target : shelf.target name fault old = .ok stored) :
    Table.find? shelf.objects name = some stored ∧
      (Versioned.metadata stored).resourceVersion = (Versioned.metadata old).resourceVersion := by
  unfold Shelf.target at target
  split at target
  · contradiction
  next found =>
      split at target
      · contradiction
      next accepted =>
          cases target
          refine ⟨found, ?_⟩
          unfold Shelf.refusal? at accepted
          split at accepted
          · contradiction
          · contradiction
          · split at accepted
            · assumption
            · contradiction

theorem put_stores (shelf : Shelf α) (name : String) (object : α) :
    shelf.objects.Stores name (shelf.put name object).1 (shelf.put name object).2.objects :=
  Table.stores_insert _ _ _

theorem dropFinished_stores (shelf : Shelf α) (name : String) (object : α) :
    shelf.objects.Stores name (shelf.put name object).1
      ((shelf.put name object).2.dropFinished name (shelf.put name object).1).objects := by
  unfold Shelf.dropFinished
  split
  next finished =>
      refine ⟨Or.inr ⟨finished, (Table.find?_erase _ _ _).trans (if_pos rfl)⟩, ?_⟩
      intro other different
      refine (Table.find?_erase _ _ _).trans ?_
      rw [if_neg different]
      exact (put_stores shelf name object).others other different
  next => exact put_stores shelf name object

end Shelf

theorem takeFault_attachments (store : Store) :
    store.takeFault.2.attachments = store.attachments := by
  unfold Store.takeFault
  split <;> rfl

theorem takeFault_volumes (store : Store) : store.takeFault.2.volumes = store.volumes := by
  unfold Store.takeFault
  split <;> rfl

theorem writeAttachment_written (store : Store) (old new : VolumeAttachment) :
    store.attachments.objects.Written old.name old
        (fun stored => { new with status := stored.status })
        (World.written .volumeAttachment old.name (store.writeAttachment old new).1)
        (store.writeAttachment old new).2.attachments.objects ∧
      (store.writeAttachment old new).2.volumes = store.volumes := by
  rw [← takeFault_attachments store]
  unfold Store.writeAttachment
  dsimp only
  split
  · exact ⟨.refused _, takeFault_volumes store⟩
  next accepted =>
      rcases target_eq_ok accepted with ⟨found, sameVersion⟩
      exact ⟨.accepted found sameVersion (dropFinished_stores _ _ _), takeFault_volumes store⟩

theorem writeStatus_written (store : Store) (old new : VolumeAttachment) :
    store.attachments.objects.Written old.name old
        (fun stored => { stored with status := new.status })
        (World.written .volumeAttachment old.name (store.writeStatus old new).1)
        (store.writeStatus old new).2.attachments.objects ∧
      (store.writeStatus old new).2.volumes = store.volumes := by
  rw [← takeFault_attachments store]
  unfold Store.writeStatus
  dsimp only
  split
  · exact ⟨.refused _, takeFault_volumes store⟩
  next accepted =>
      rcases target_eq_ok accepted with ⟨found, sameVersion⟩
      exact ⟨.accepted found sameVersion (put_stores _ _ _), takeFault_volumes store⟩

theorem writeVolume_written (store : Store) (old new : PersistentVolume) :
    store.volumes.objects.Written old.name old (fun _ => new)
        (World.written .persistentVolume old.name (store.writeVolume old new).1)
        (store.writeVolume old new).2.volumes.objects ∧
      (store.writeVolume old new).2.attachments = store.attachments := by
  rw [← takeFault_volumes store]
  unfold Store.writeVolume
  dsimp only
  split
  · exact ⟨.refused _, takeFault_attachments store⟩
  next accepted =>
      rcases target_eq_ok accepted with ⟨found, sameVersion⟩
      exact ⟨.accepted found sameVersion (dropFinished_stores _ _ _), takeFault_attachments store⟩

/-- A simulated world, with the attachments whose volumes may be published. -/
structure Observed where
  world : World
  isExposed : String → Bool

namespace Observed

def scene (observed : Observed) : Scene where
  attachments := observed.world.store.attachments.objects
  volumes := observed.world.store.volumes.objects
  isExposed := observed.isExposed

/-- Answers a request of the work on an attachment, or of other work. -/
def answer (observed : Observed) (about : Option String) (request : Request) :
    request.Answer × Observed :=
  let (answer, world) := World.answer request observed.world
  (answer, { world, isExposed := (observed.scene.exposing about request answer).isExposed })

theorem scene_answer (observed : Observed) (about : Option String) {request : Request}
    (unexposed : ∀ exposed answer, exposedAfter exposed request answer = exposed) :
    (observed.answer about request).2.scene =
      { attachments := (World.answer request observed.world).2.store.attachments.objects
        volumes := (World.answer request observed.world).2.store.volumes.objects
        isExposed := observed.isExposed } := by
  simp [answer, scene, Scene.exposing, unexposed]

/-- A simulated world answers as surroundings may. -/
theorem answered (about : Option String) (request : Request) (observed : Observed) :
    Scene.Answered about request observed.scene (observed.answer about request).1
      (observed.answer about request).2.scene := by
  cases request with
  | attachment _ | attachments | volume _ | volumes =>
      exact ⟨rfl, observed.scene_answer about fun _ _ => rfl⟩
  | writeAttachment old new =>
      rcases writeAttachment_written observed.world.store old new with ⟨written, volumes⟩
      refine ⟨_, (observed.scene_answer about fun _ _ => rfl).trans ?_, written⟩
      simp [World.answer, World.logWrite, scene, volumes]
  | writeStatus old new =>
      rcases writeStatus_written observed.world.store old new with ⟨written, volumes⟩
      refine ⟨_, (observed.scene_answer about fun _ _ => rfl).trans ?_, written⟩
      simp [World.answer, World.logWrite, scene, volumes]
  | writeVolume old new =>
      rcases writeVolume_written observed.world.store old new with ⟨written, attachments⟩
      refine ⟨_, (observed.scene_answer about fun _ _ => rfl).trans ?_, written⟩
      simp [World.answer, World.logWrite, scene, attachments]
  | csiNode _ | node _ | secret _ _ | currentTime | call _ => rfl
  | enqueue queue _ | forget queue _ | retry queue _ => cases queue <;> rfl

/-- Performs the work on an attachment, or other work. -/
def perform (observed : Observed) (about : Option String) (action : Action Unit) :
    Except Failure Unit × Observed :=
  Program.run (fun request observed => observed.answer about request) action.run observed

theorem runs_perform (observed : Observed) (about : Option String) (action : Action Unit) :
    ∃ passed, Program.Runs (Scene.Answered about) action.run observed.scene passed
        (observed.perform about action).1 ∧
      passed.getLastD observed.scene = (observed.perform about action).2.scene :=
  Program.runs_run scene (fun request observed => observed.answered about request) action.run
    observed

theorem occurs_attachment (observed : Observed) (reconciler : Reconciler) {name : String}
    {attachment : VolumeAttachment}
    (found : Table.find? observed.scene.attachments name = some attachment) :
    ∃ passed, reconciler.Occurs observed.scene
        (.attachment name
          (observed.perform (some name) (reconciler.syncAttachment attachment)).1) passed ∧
      passed.getLastD observed.scene =
        (observed.perform (some name) (reconciler.syncAttachment attachment)).2.scene := by
  rcases observed.runs_perform (some name) (reconciler.syncAttachment attachment) with
    ⟨passed, runs, last⟩
  exact ⟨passed, .attachment found runs, last⟩

theorem occurs_volume (observed : Observed) (reconciler : Reconciler) {name : String}
    {volume : PersistentVolume}
    (found : Table.find? observed.scene.volumes name = some volume) :
    ∃ passed, reconciler.Occurs observed.scene
        (.volume name (observed.perform none (reconciler.syncVolume volume)).1) passed ∧
      passed.getLastD observed.scene =
        (observed.perform none (reconciler.syncVolume volume)).2.scene := by
  rcases observed.runs_perform none (reconciler.syncVolume volume) with ⟨passed, runs, last⟩
  exact ⟨passed, .volume found runs, last⟩

end Observed

def smallVolume : PersistentVolume where
  metadata := { name := some "pv-1", resourceVersion := some "1" }
  spec := some
    { accessModes := some ["ReadWriteOnce"]
      volumeMode := none
      mountOptions := none
      capacity := none
      hostPath := none
      csi := some
        { driver := "csi.example.com"
          volumeHandle := "vol-1"
          readOnly := none
          fsType := none
          volumeAttributes := none
          controllerPublishSecretRef := none
          controllerExpandSecretRef := none
          nodePublishSecretRef := none } }

def smallAttachment : VolumeAttachment where
  metadata := { name := some "va-1", resourceVersion := some "1" }
  spec := ⟨"csi.example.com", "node-1", ⟨some "pv-1", none⟩⟩
  status := none

def smallNode : CsiNode where
  metadata := { name := some "node-1" }
  drivers :=
    [{ name := "csi.example.com"
       nodeId := "node-id-1"
       topologyKeys := none
       allocatable := none }]

/-- A cluster with one volume that is to be attached, and the answers of its driver. -/
def smallCluster (script : Script) : Observed where
  world :=
    { World.initial ⟨1, 1⟩ with
      store :=
        { attachments :=
            { objects := [("va-1", smallAttachment)], versions := [("va-1", 1)] }
          volumes := { objects := [("pv-1", smallVolume)], versions := [("pv-1", 1)] }
          csiNodes := [("node-1", smallNode)] }
      script }
  isExposed _ := false

def smallReconciler : Reconciler where
  driver := "csi.example.com"

theorem find?_smallCluster_attachments {script : Script} {name : String}
    {attachment : VolumeAttachment}
    (found : Table.find? (smallCluster script).scene.attachments name = some attachment) :
    name = "va-1" ∧ attachment = smallAttachment := by
  by_cases same : name = "va-1"
  · subst same
    cases found
    exact ⟨rfl, rfl⟩
  · simp [smallCluster, Observed.scene, Table.find?_cons, same] at found

theorem find?_smallCluster_volumes {script : Script} {name : String} {volume : PersistentVolume}
    (found : Table.find? (smallCluster script).scene.volumes name = some volume) :
    name = "pv-1" ∧ volume = smallVolume := by
  by_cases same : name = "pv-1"
  · subst same
    cases found
    exact ⟨rfl, rfl⟩
  · simp [smallCluster, Observed.scene, Table.find?_cons, same] at found

theorem smallCluster_isNamed (script : Script) : (smallCluster script).scene.IsNamed := by
  constructor
  · intro name attachment found
    rcases find?_smallCluster_attachments found with ⟨rfl, rfl⟩
    rfl
  · intro name volume found
    rcases find?_smallCluster_volumes found with ⟨rfl, rfl⟩
    rfl

def smallOutcome (script : Script) : Observed :=
  ((smallCluster script).perform (some "va-1")
    (smallReconciler.syncAttachment smallAttachment)).2

theorem occurs_smallAttachment (script : Script) : ∃ result passed,
    smallReconciler.Occurs (smallCluster script).scene (.attachment "va-1" result) passed ∧
      passed.getLastD (smallCluster script).scene = (smallOutcome script).scene := by
  have found : Table.find? (smallCluster script).scene.attachments "va-1" = some smallAttachment :=
    rfl
  rcases (smallCluster script).occurs_attachment smallReconciler found with ⟨passed, occurs, last⟩
  exact ⟨_, passed, occurs, last⟩

end VolumeAttacher.Simulation
