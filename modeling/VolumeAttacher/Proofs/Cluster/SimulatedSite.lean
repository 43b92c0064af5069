import VolumeAttacher.Proofs.Cluster.Simulated
import VolumeAttacher.Proofs.Reconcile.Endings

/-!
# The simulated cluster as a site

The simulated cluster answers requests as a site may: any write may be refused while faults are
queued, none that need not be when there are none, and the driver replies as its script says.
-/

namespace VolumeAttacher.Simulation

open Reconcile

section Shelf

variable {α : Type} [Versioned α] {shelf : Shelf α} {name : String} {fault : Fault}
  {old stored : α} {refusable : Prop}

theorem dropFinished_drops (shelf : Shelf α) (name : String) (object : α) (change : Change α)
    (kind : ObjectKind) :
    Table.Drops name (World.written kind name (.ok ((shelf.put name object).1, change)))
      ((shelf.put name object).2.dropFinished name (shelf.put name object).1).objects := by
  intro written same finished
  cases same
  unfold Shelf.dropFinished
  rw [if_pos finished]
  exact (Table.find?_erase _ _ _).trans (if_pos rfl)

/-- A write is refused for a fault only if there is one. -/
theorem target_grants {refusal : Refusal} {answer : Except Failure α}
    (target : shelf.target name fault old = .error refusal)
    (granted : refusable ∨ fault = .none) :
    Table.Grants refusable shelf.objects name old answer := by
  intro failure _
  rcases granted with granted | rfl
  · exact .inl granted
  · refine .inr ?_
    intro stored found sameVersion
    simp [Shelf.target, Shelf.find?, found, Shelf.refusal?, sameVersion] at target

end Shelf

theorem takeFault_eq_none (store : Store) (faultless : store.faults = []) :
    store.takeFault.1 = .none := by
  simp [Store.takeFault, faultless]

def backdrop (store : Store) : Backdrop where
  csiNode name := Table.find? store.csiNodes name
  node name := Table.find? store.nodes name
  secret := World.readSecret store

/-- What writing attachments and volumes leaves alone, but for the faults that it uses up. -/
structure LeavesRest (before after : Store) : Prop where
  backdrop : backdrop after = backdrop before
  faultless : before.faults = [] → after.faults = []

theorem takeFault_leavesRest (store : Store) : LeavesRest store store.takeFault.2 := by
  constructor
  · unfold Store.takeFault
    split <;> rfl
  · intro faultless
    simp [Store.takeFault, faultless]

theorem writeAttachment_leavesRest (store : Store) (old new : VolumeAttachment) :
    LeavesRest store (store.writeAttachment old new).2 := by
  have leaves := takeFault_leavesRest store
  unfold Store.writeAttachment
  dsimp only
  split <;> exact ⟨leaves.backdrop, leaves.faultless⟩

theorem writeStatus_leavesRest (store : Store) (old new : VolumeAttachment) :
    LeavesRest store (store.writeStatus old new).2 := by
  have leaves := takeFault_leavesRest store
  unfold Store.writeStatus
  dsimp only
  split <;> exact ⟨leaves.backdrop, leaves.faultless⟩

theorem writeVolume_leavesRest (store : Store) (old new : PersistentVolume) :
    LeavesRest store (store.writeVolume old new).2 := by
  have leaves := takeFault_leavesRest store
  unfold Store.writeVolume
  dsimp only
  split <;> exact ⟨leaves.backdrop, leaves.faultless⟩

theorem writeAttachment_grants {refusable : Prop} (store : Store) (old new : VolumeAttachment)
    (granted : refusable ∨ store.faults = []) :
    Table.Drops old.name
        (World.written .volumeAttachment old.name (store.writeAttachment old new).1)
        (store.writeAttachment old new).2.attachments.objects ∧
      Table.Grants refusable store.attachments.objects old.name old
        (World.written .volumeAttachment old.name (store.writeAttachment old new).1) := by
  rw [← takeFault_attachments store]
  have granted := granted.imp_right (takeFault_eq_none store)
  unfold Store.writeAttachment
  dsimp only
  split
  next refused =>
      refine ⟨?_, target_grants refused granted⟩
      intro written same
      contradiction
  next accepted =>
      refine ⟨dropFinished_drops _ _ _ _ _, ?_⟩
      intro failure same
      contradiction

theorem writeStatus_grants {refusable : Prop} (store : Store) (old new : VolumeAttachment)
    (granted : refusable ∨ store.faults = []) :
    Table.Grants refusable store.attachments.objects old.name old
      (World.written .volumeAttachment old.name (store.writeStatus old new).1) := by
  rw [← takeFault_attachments store]
  have granted := granted.imp_right (takeFault_eq_none store)
  unfold Store.writeStatus
  dsimp only
  split
  next refused => exact target_grants refused granted
  next accepted =>
      intro failure same
      contradiction

theorem writeVolume_grants {refusable : Prop} (store : Store) (old new : PersistentVolume)
    (granted : refusable ∨ store.faults = []) :
    Table.Drops old.name
        (World.written .persistentVolume old.name (store.writeVolume old new).1)
        (store.writeVolume old new).2.volumes.objects ∧
      Table.Grants refusable store.volumes.objects old.name old
        (World.written .persistentVolume old.name (store.writeVolume old new).1) := by
  rw [← takeFault_volumes store]
  have granted := granted.imp_right (takeFault_eq_none store)
  unfold Store.writeVolume
  dsimp only
  split
  next refused =>
      refine ⟨?_, target_grants refused granted⟩
      intro written same
      contradiction
  next accepted =>
      refine ⟨dropFinished_drops _ _ _ _ _, ?_⟩
      intro failure same
      contradiction

namespace World

def site (world : World) : Site where
  backdrop := backdrop world.store
  attachments := world.store.attachments.objects
  volumes := world.store.volumes.objects
  calls := world.calls.reverse

/-- Whether two worlds differ in their queues, clocks and logs only. -/
structure Agrees (world other : World) : Prop where
  store : world.store = other.store
  script : world.script = other.script
  calls : world.calls = other.calls

theorem Agrees.site_eq {world other : World} (agrees : Agrees world other) :
    world.site = other.site := by
  unfold site
  rw [agrees.store, agrees.calls]

theorem Agrees.withAgenda {world other : World} (agrees : Agrees world other)
    (agenda : Agenda Alarm) : Agrees { world with agenda } other :=
  ⟨agrees.store, agrees.script, agrees.calls⟩

theorem setQueue_agrees (world : World) (name : QueueName) (queue : WorkQueue) :
    Agrees (world.setQueue name queue) world := by
  cases name <;> exact ⟨rfl, rfl, rfl⟩

theorem retry_agrees (world : World) (name : QueueName) (key : String) :
    Agrees (world.retry name key) world := by
  unfold retry
  exact (world.setQueue_agrees name _).withAgenda _

/-- A simulated world answers as its site may, in circumstances that allow for its faults and for
the replies of its driver. -/
theorem answered {circumstances : Circumstances} (request : Request) (world : World)
    (granted : circumstances.refusable ∨ world.store.faults = [])
    (replies : ∀ call, circumstances.replies call (world.script.answer call).1) :
    Site.Answered circumstances request world.site (answer request world).1
      (answer request world).2.site := by
  cases request with
  | csiNode _ | node _ | secret _ _ | attachment _ | attachments | volume _ | volumes =>
      exact ⟨rfl, rfl⟩
  | writeAttachment old new =>
      rcases writeAttachment_written world.store old new with ⟨written, volumes⟩
      rcases writeAttachment_grants world.store old new granted with ⟨drops, grants⟩
      refine ⟨_, ?_, written, drops, grants⟩
      simp [answer, logWrite, site, volumes, (writeAttachment_leavesRest _ _ _).backdrop]
  | writeStatus old new =>
      rcases writeStatus_written world.store old new with ⟨written, volumes⟩
      refine ⟨_, ?_, written, writeStatus_grants world.store old new granted⟩
      simp [answer, logWrite, site, volumes, (writeStatus_leavesRest _ _ _).backdrop]
  | writeVolume old new =>
      rcases writeVolume_written world.store old new with ⟨written, attachments⟩
      rcases writeVolume_grants world.store old new granted with ⟨drops, grants⟩
      refine ⟨_, ?_, written, drops, grants⟩
      simp [answer, logWrite, site, attachments, (writeVolume_leavesRest _ _ _).backdrop]
  | call call =>
      refine ⟨replies call, ?_⟩
      simp [answer, site]
  | currentTime => rfl
  | enqueue queue key => exact (world.setQueue_agrees queue _).site_eq
  | forget queue key => exact (world.setQueue_agrees queue _).site_eq
  | retry queue key => exact (world.retry_agrees queue key).site_eq

/-- Only calls take replies from the script. -/
theorem script_answer (request : Request) (world : World) :
    (answer request world).2.script =
      match request with
      | .call call => (world.script.answer call).2
      | _ => world.script := by
  cases request with
  | enqueue queue key => exact (world.setQueue_agrees queue _).script
  | forget queue key => exact (world.setQueue_agrees queue _).script
  | retry queue key => exact (world.retry_agrees queue key).script
  | _ => rfl

theorem faults_answer (request : Request) {world : World} (faultless : world.store.faults = []) :
    (answer request world).2.store.faults = [] := by
  cases request with
  | writeAttachment old new => exact (writeAttachment_leavesRest _ old new).faultless faultless
  | writeStatus old new => exact (writeStatus_leavesRest _ old new).faultless faultless
  | writeVolume old new => exact (writeVolume_leavesRest _ old new).faultless faultless
  | enqueue queue key => exact (world.setQueue_agrees queue _).store ▸ faultless
  | forget queue key => exact (world.setQueue_agrees queue _).store ▸ faultless
  | retry queue key => exact (world.retry_agrees queue key).store ▸ faultless
  | _ => exact faultless

theorem perform_ends_arbitrary (action : Action Unit) (world : World) :
    action.Ends .arbitrary world.site (world.perform action).1 (world.perform action).2.site := by
  have answers (request : Request) (world : World) (_ : True) :
      Site.Answered .arbitrary request world.site (answer request world).1
        (answer request world).2.site ∧ True :=
    ⟨answered request world (.inl trivial) fun _ => trivial, trivial⟩
  exact Program.ends_run site answers action.run trivial

/-- Whether the driver confirms whatever it confirms with the empty publish context. -/
def ConfirmsEmpty (world : World) : Prop :=
  ∀ response : Csi.PublishResponse, .ok response ∈ world.script.publish →
    response.publishContext = []

theorem perform_ends_rough (action : Action Unit) {world : World}
    (confirms : world.ConfirmsEmpty) :
    action.Ends (.rough []) world.site (world.perform action).1 (world.perform action).2.site := by
  refine Program.ends_run site ?_ action.run confirms
  intro request world confirms
  constructor
  · refine answered request world (.inl trivial) ?_
    intro call
    cases call with
    | unpublish _ | list _ => trivial
    | publish _ =>
        intro response same
        cases script : world.script.publish with
        | nil =>
            have same : (Except.ok {} : Except Csi.Error Csi.PublishResponse) = .ok response := by
              simpa [Script.answer, Script.next, script] using same
            cases same
            rfl
        | cons first rest =>
            have same : first = .ok response := by
              simpa [Script.answer, Script.next, script] using same
            apply confirms
            rw [script, same]
            exact List.mem_cons_self
  · intro response member
    apply confirms
    rw [script_answer] at member
    split at member
    next call =>
        cases call with
        | unpublish _ | list _ => exact member
        | publish _ =>
            cases script : world.script.publish with
            | nil => simp [Script.answer, Script.next, script] at member
            | cons first rest =>
                have member : .ok response ∈ rest := by
                  simpa [Script.answer, Script.next, script] using member
                exact List.mem_cons_of_mem _ member
    next => exact member

/-- Whether nothing is queued that goes wrong. -/
structure IsSmooth (world : World) : Prop where
  faultless : world.store.faults = []
  unscripted : world.script = {}

theorem perform_ends_smooth (action : Action Unit) {world : World} (isSmooth : world.IsSmooth) :
    action.Ends (.smooth []) world.site (world.perform action).1 (world.perform action).2.site := by
  refine Program.ends_run site ?_ action.run isSmooth
  rintro request world ⟨faultless, unscripted⟩
  refine ⟨answered request world (.inr faultless) ?_, faults_answer request faultless, ?_⟩
  · intro call
    rw [unscripted]
    cases call <;> rfl
  · rw [script_answer, unscripted]
    split
    next call => cases call <;> rfl
    next => rfl

end World

end VolumeAttacher.Simulation
