import VolumeAttacher.Proofs.Reconcile.Strays
import VolumeAttacher.Proofs.Reconcile.Sweeping

/-!
# The upkeep

From time to time the driver is asked what it publishes, if it can be asked, and the strays are
marked as detached. That the driver gives an error, or that some of the marks cannot be written,
does not keep the names of all attachments and volumes from being added to their queues. The error
of the driver is the result; refused marks leave no trace in it.
-/

namespace VolumeAttacher.Reconcile

theorem enqueue_ends {α : Type} {items : List α} {name : QueueName} {key : α → String}
    {refused : String → Prop} {before after : Installation} {result : Except Failure Unit}
    (ends : (items.forM fun item => Action.enqueue name (key item)).run.Ends
      (Installation.Answered refused) before result after) :
    result = .ok () ∧ after = before.addKeys name (items.map key) := by
  have steps := Program.ends_forM
    (fun visited now => now = before.addKeys name (visited.map key)) ?_ (by simp) ends
  · exact steps
  · rintro visited item later split now outcome new rfl endsAdd
    rcases endsAdd with ⟨answer, middle, rfl, rfl, rfl⟩
    exact ⟨rfl, by simp [Installation.addKeys_addKeys]⟩

/-- An installation in which the names of all attachments and volumes have been added to their
queues. -/
def Installation.enqueued (installation : Installation) : Installation :=
  (installation.addKeys .attachments
    ((Table.values installation.site.attachments).map VolumeAttachment.name)).addKeys .volumes
      ((Table.values installation.site.volumes).map PersistentVolume.name)

theorem enqueueAll_ends {refused : String → Prop} {before after : Installation}
    {result : Except Failure Unit}
    (ends : enqueueAll.run.Ends (Installation.Answered refused) before result after) :
    result = .ok () ∧ after = before.enqueued := by
  rcases (Program.ends_run_bind _ _).mp ends with ⟨_, _, looks, rest⟩
  have reads : Action.attachments.run.result? before.found? =
      some (.ok (Table.values before.site.attachments)) := rfl
  rcases Installation.eq_of_found? reads looks with ⟨rfl, rfl⟩
  rcases (Program.ends_run_bind _ _).mp rest with ⟨_, middle, adds, rest⟩
  rcases enqueue_ends adds with ⟨rfl, rfl⟩
  rcases (Program.ends_run_bind _ _).mp rest with ⟨_, _, looks, rest⟩
  rcases Installation.eq_of_found? rfl looks with ⟨rfl, rfl⟩
  exact enqueue_ends rest

/-- Whether these names have been added to a queue, perhaps with others. -/
def Installation.Adds (before : Installation) (name : QueueName) (names : List String)
    (after : Installation) : Prop :=
  ∃ keys : List String, (∀ key ∈ names, key ∈ keys) ∧
    after.queue name = keys.foldl WorkQueue.add (before.queue name)

namespace Reconciler

variable {reconciler : Reconciler} {refused : String → Prop} {before after : Installation}
  {result : Except Failure Unit}

/-- What the driver lists as published, or the error that it gives; nothing if it is not asked. -/
def listing? (reconciler : Reconciler) (driver : Simulation.ScriptedDriver) :
    Option (Except Csi.Error Csi.PublishedVolumes) :=
  if reconciler.listPublished then
    some (Program.run Simulation.ScriptedDriver.answer
      (Csi.listVolumes reconciler.maxEntries reconciler.pageLimit).run driver).1
  else none

/-- What the upkeep has done before it adds keys, and its result. -/
inductive Surveys (reconciler : Reconciler) (refused : String → Prop) (before : Installation) :
    Except Failure Unit → Installation → Prop
  | unasked (isNone : reconciler.listing? before.driver = none) :
      Surveys reconciler refused before (.ok ()) before
  | failed {error : Csi.Error} {driver : Simulation.ScriptedDriver}
      (isError : reconciler.listing? before.driver = some (.error error)) :
      Surveys reconciler refused before (.error (.csi error)) { before with driver }
  | listed {published : Csi.PublishedVolumes} {driver : Simulation.ScriptedDriver}
      {after : Installation}
      (isListed : reconciler.listing? before.driver = some (.ok published))
      (swept : Swept reconciler refused published { before with driver }
        (Table.values before.site.attachments) after) :
      Surveys reconciler refused before (.ok ()) after

/-- All ways lead to the adding of keys; what has been listed only settles the result. -/
theorem reconcileAll_ends (ready : reconciler.ready = true) (isNamed : before.site.IsNamed)
    (once : (Table.names before.site.attachments).Nodup)
    (ends : reconciler.reconcileAll.run.Ends (Installation.Answered refused) before result after) :
    ∃ middle, reconciler.Surveys refused before result middle ∧ after = middle.enqueued := by
  have closing {listed result : Except Failure Unit} {middle after : Installation}
      (ends : (enqueueAll >>= fun _ => Action.ofExcept listed).run.Ends
        (Installation.Answered refused) middle result after) :
      result = listed ∧ after = middle.enqueued := by
    rcases (Program.ends_run_bind _ _).mp ends with ⟨_, _, adds, rest⟩
    rcases enqueueAll_ends adds with ⟨rfl, rfl⟩
    cases listed <;> exact rest
  unfold reconcileAll at ends
  rcases (Program.ends_run_bind _ _).mp ends with ⟨_, checked, checks, rest⟩
  rw [requireQueues, ready] at checks
  rcases checks with ⟨rfl, same⟩
  subst checked
  dsimp only at rest
  split at rest
  next asks =>
      rcases (Program.ends_run_bind _ _).mp rest with ⟨_, _, calls, rest⟩
      rcases Installation.eq_of_calls calls with ⟨rfl, rfl⟩
      have isListing : reconciler.listing? before.driver = some (Program.run _ _ _).1 := if_pos asks
      dsimp only at rest
      split at rest
      next published isOk =>
          rcases (Program.ends_run_bind _ _).mp rest with ⟨_, _, sweeps, rest⟩
          rcases sweep_ends (by exact isNamed) (by exact once) sweeps with ⟨rfl, swept⟩
          rcases closing rest with ⟨rfl, rfl⟩
          exact ⟨_, .listed (isListing.trans (congrArg some isOk)) swept, rfl⟩
      next error isError =>
          rcases closing rest with ⟨rfl, rfl⟩
          exact ⟨_, .failed (isListing.trans (congrArg some isError)), rfl⟩
  next unasked =>
      rcases closing rest with ⟨rfl, rfl⟩
      exact ⟨_, .unasked (if_neg unasked), rfl⟩

/-- Whether the strays have been marked as detached and nothing else has become of the attachments
when these volumes are published. -/
structure MarksStrays (reconciler : Reconciler) (refused : String → Prop)
    (published : Csi.PublishedVolumes) (before after : Installation) : Prop where
  /-- The status of the strays was to be written, and of no other attachment. -/
  asked : ∀ name, name ∈ after.marks ↔ name ∈ before.marks ∨
    ∃ attachment, Table.find? before.site.attachments name = some attachment ∧
      reconciler.IsStray before.site published attachment
  marked : ∀ name attachment, Table.find? before.site.attachments name = some attachment →
    reconciler.IsStray before.site published attachment → ¬ refused name →
      ∃ version, Table.find? after.site.attachments name =
        some (Versioned.stamped (marked attachment) version)
  kept : ∀ name, (∀ attachment, Table.find? before.site.attachments name = some attachment →
    reconciler.IsStray before.site published attachment → refused name) →
      Table.find? after.site.attachments name = Table.find? before.site.attachments name

theorem Swept.marksStrays {published : Csi.PublishedVolumes} (isNamed : before.site.IsNamed)
    (once : (Table.names before.site.attachments).Nodup)
    (swept : Swept reconciler refused published before (Table.values before.site.attachments)
      after) : reconciler.MarksStrays refused published before after := by
  have visited {name : String} {attachment : VolumeAttachment} :
      Table.find? before.site.attachments name = some attachment ↔
        attachment ∈ Table.values before.site.attachments ∧ attachment.name = name := by
    constructor
    · exact fun found => ⟨Table.mem_values_of_find? found, isNamed.attachments found⟩
    · rintro ⟨mem, rfl⟩
      exact (mem_values_iff isNamed once attachment).mp mem
  constructor
  · intro name
    rw [swept.marks name]
    refine or_congr_right (exists_congr fun attachment => ?_)
    rw [visited, and_assoc, and_comm (a := attachment.name = name)]
  · intro name attachment found stray notRefused
    rcases visited.mp found with ⟨mem, rfl⟩
    exact swept.marked attachment mem stray notRefused
  · intro name spared
    refine swept.kept name fun attachment mem stray sameName => ?_
    exact spared attachment (visited.mpr ⟨mem, sameName⟩) stray

/-- An attachment keeps its name when the strays are marked. -/
theorem MarksStrays.exists_named {published : Csi.PublishedVolumes}
    (marks : reconciler.MarksStrays refused published before after)
    (isNamed : before.site.IsNamed) {name : String} {attachment : VolumeAttachment}
    (found : Table.find? before.site.attachments name = some attachment) :
    ∃ later, Table.find? after.site.attachments name = some later ∧ later.name = name := by
  by_cases isMarked : reconciler.IsStray before.site published attachment ∧ ¬ refused name
  · rcases marks.marked name attachment found isMarked.1 isMarked.2 with ⟨version, foundAfter⟩
    have sameName : attachment.name = name := isNamed.attachments found
    exact ⟨_, foundAfter, sameName⟩
  · have same := marks.kept name fun other foundOther stray => by
      rcases Option.some.inj (found.symm.trans foundOther) with rfl
      exact by_contra fun notRefused => isMarked ⟨stray, notRefused⟩
    exact ⟨attachment, same.trans found, isNamed.attachments found⟩

/-- What the upkeep comes to: the strays are marked if the driver lists what it publishes, nothing
is written otherwise, and in either case the names of all objects have been added. -/
structure Upkeep (reconciler : Reconciler) (refused : String → Prop) (before : Installation)
    (result : Except Failure Unit) (after : Installation) : Prop where
  rest : ∃ attachments, after.site = { before.site with attachments }
  listed : ∀ published, reconciler.listing? before.driver = some (.ok published) →
    result = .ok () ∧ reconciler.MarksStrays refused published before after
  failed : ∀ error, reconciler.listing? before.driver = some (.error error) →
    result = .error (.csi error) ∧ after.site = before.site ∧ after.marks = before.marks
  unasked : reconciler.listing? before.driver = none →
    result = .ok () ∧ after.site = before.site ∧ after.marks = before.marks
  attachments : before.Adds .attachments (Table.names before.site.attachments) after
  volumes : before.Adds .volumes (Table.names before.site.volumes) after

/-- The survey changes no queue and no volume, and all attachments keep their names. -/
theorem Surveys.keeps {middle : Installation}
    (surveys : reconciler.Surveys refused before result middle) (isNamed : before.site.IsNamed)
    (once : (Table.names before.site.attachments).Nodup) :
    middle.queue = before.queue ∧
      (∃ attachments, middle.site = { before.site with attachments }) ∧
      ∀ {name attachment}, Table.find? before.site.attachments name = some attachment →
        ∃ later, Table.find? middle.site.attachments name = some later ∧ later.name = name := by
  cases surveys with
  | unasked | failed => exact ⟨rfl, ⟨_, rfl⟩, fun found => ⟨_, found, isNamed.attachments found⟩⟩
  | listed _ swept =>
      have marks := swept.marksStrays (by exact isNamed) (by exact once)
      rcases swept.rest with ⟨stored, asked, rfl⟩
      exact ⟨rfl, ⟨_, rfl⟩, fun found => marks.exists_named (by exact isNamed) (by exact found)⟩

theorem Surveys.enqueued_adds {middle : Installation}
    (surveys : reconciler.Surveys refused before result middle) (isNamed : before.site.IsNamed)
    (once : (Table.names before.site.attachments).Nodup) :
    before.Adds .attachments (Table.names before.site.attachments) middle.enqueued ∧
      before.Adds .volumes (Table.names before.site.volumes) middle.enqueued := by
  rcases surveys.keeps isNamed once with ⟨queues, ⟨attachments, isSite⟩, named⟩
  constructor
  · refine ⟨(Table.values middle.site.attachments).map VolumeAttachment.name, ?_, ?_⟩
    · intro name mem
      rcases Table.exists_find?_of_mem_names mem with ⟨attachment, found⟩
      rcases named found with ⟨later, foundLater, rfl⟩
      exact List.mem_map_of_mem (Table.mem_values_of_find? foundLater)
    · rw [← queues]
      rfl
  · refine ⟨(Table.values middle.site.volumes).map PersistentVolume.name, ?_, ?_⟩
    · intro name mem
      rcases Table.exists_find?_of_mem_names mem with ⟨volume, found⟩
      rw [isSite]
      exact List.mem_map.mpr ⟨volume, Table.mem_values_of_find? found, isNamed.volumes found⟩
    · rw [← queues]
      rfl

/-- The upkeep marks as detached exactly the strays of which the status may be written. -/
theorem reconcileAll_marks_strays (ready : reconciler.ready = true)
    (refused : String → Prop) (isNamed : before.site.IsNamed)
    (once : (Table.names before.site.attachments).Nodup) :
    (∃ result after,
      reconciler.reconcileAll.run.Ends (Installation.Answered refused) before result after) ∧
    ∀ result after,
      reconciler.reconcileAll.run.Ends (Installation.Answered refused) before result after →
        reconciler.Upkeep refused before result after := by
  refine ⟨Program.exists_ends Installation.exists_answered _ _, fun result after ends => ?_⟩
  rcases reconcileAll_ends ready isNamed once ends with ⟨middle, surveys, rfl⟩
  rcases surveys.enqueued_adds isNamed once with ⟨attachments, volumes⟩
  rcases surveys.keeps isNamed once with ⟨-, rest, -⟩
  refine ⟨rest, ?_, ?_, ?_, attachments, volumes⟩
  · intro published isListed
    cases surveys with
    | unasked isNone => simp [isNone] at isListed
    | failed isError => simp [isError] at isListed
    | listed isOther swept =>
        rcases Except.ok.inj (Option.some.inj (isOther.symm.trans isListed)) with rfl
        have marks := swept.marksStrays (by exact isNamed) (by exact once)
        exact ⟨rfl, marks.asked, marks.marked, marks.kept⟩
  · intro error isError
    cases surveys with
    | unasked isNone => simp [isNone] at isError
    | failed isOther =>
        rcases Except.error.inj (Option.some.inj (isOther.symm.trans isError)) with rfl
        exact ⟨rfl, rfl, rfl⟩
    | listed isListed => simp [isListed] at isError
  · intro isNone
    cases surveys with
    | unasked => exact ⟨rfl, rfl, rfl⟩
    | failed isError => simp [isError] at isNone
    | listed isListed => simp [isListed] at isNone

section LostVolume

open Simulation

/-- A second attachment to the same node. -/
def twinAttachment : VolumeAttachment :=
  { attachedAttachment with
    metadata := { attachedAttachment.metadata with name := some "va-2" } }

/-- The small cluster with two attachments, whose driver lists nothing. -/
def lostInstallation : Installation where
  site :=
    { (smallCluster {}).world.site with
      attachments := [("va-1", attachedAttachment), ("va-2", twinAttachment)] }
  driver := { script := {} }
  queue _ := .empty ⟨1, 1000⟩
  marks := []

theorem find?_lostInstallation {name : String} {attachment : VolumeAttachment}
    (found : Table.find? lostInstallation.site.attachments name = some attachment) :
    name = "va-1" ∧ attachment = attachedAttachment ∨
      name = "va-2" ∧ attachment = twinAttachment := by
  change Table.find? [("va-1", attachedAttachment), ("va-2", twinAttachment)] name = _ at found
  rw [Table.find?_cons, Table.find?_cons] at found
  split at found
  next isFirst => exact .inl ⟨isFirst, (Option.some.inj found).symm⟩
  next =>
      split at found
      next isSecond => exact .inr ⟨isSecond, (Option.some.inj found).symm⟩
      next => contradiction

theorem lostInstallation_isNamed : lostInstallation.site.IsNamed where
  attachments found := by
    rcases find?_lostInstallation found with ⟨rfl, rfl⟩ | ⟨rfl, rfl⟩ <;> rfl
  volumes found := (smallCluster_isNamed {}).volumes found

theorem isStray_of_lost {attachment : VolumeAttachment}
    (isLost : attachment = attachedAttachment ∨ attachment = twinAttachment) :
    listingReconciler.IsStray lostInstallation.site [] attachment := by
  have registered : lostInstallation.site.backdrop.csiNode "node-1" = some smallNode := rfl
  have about : listingReconciler.IsAbout lostInstallation.site attachment "vol-1" "node-id-1" := by
    rcases isLost with rfl | rfl <;>
      exact ⟨"pv-1", smallVolume, _, rfl, rfl, rfl, rfl, .registered registered rfl⟩
  refine ⟨?_, ?_, ?_, _, _, about, by simp⟩ <;> rcases isLost with rfl | rfl <;> rfl

theorem reconcileAll_marks_strays_of_lost_volume :
    (∃ result after, listingReconciler.reconcileAll.run.Ends
      (Installation.Answered (· = "va-2")) lostInstallation result after) ∧
    ∀ result after, listingReconciler.reconcileAll.run.Ends
        (Installation.Answered (· = "va-2")) lostInstallation result after →
      result = .ok () ∧
        (∃ version, Table.find? after.site.attachments "va-1" =
          some (Versioned.stamped (marked attachedAttachment) version)) ∧
        Table.find? after.site.attachments "va-2" = some twinAttachment := by
  have ready : listingReconciler.ready = true := rfl
  rcases reconcileAll_marks_strays ready (· = "va-2") lostInstallation_isNamed
    (by decide) with ⟨runs, upkeep⟩
  refine ⟨runs, fun result after ends => ?_⟩
  rcases (upkeep result after ends).listed [] rfl with ⟨isOk, marks⟩
  refine ⟨isOk, ?_, ?_⟩
  · exact marks.marked "va-1" _ rfl (isStray_of_lost (.inl rfl)) (by decide)
  · exact marks.kept "va-2" fun _ _ _ => rfl

end LostVolume

end Reconciler

end VolumeAttacher.Reconcile
