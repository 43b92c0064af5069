import VolumeAttacher.Proofs.Cluster.Contents
import VolumeAttacher.Proofs.Cluster.Installation
import VolumeAttacher.Proofs.Reconcile.Endings

/-!
# Strays

An attachment is a stray if it is recorded as attached and not to be deleted, and the driver, whose
it is, does not list its volume on its node. The upkeep marks the strays as detached, each for
itself: that the mark of one cannot be written has no effect on the others, nor has the order in
which they are visited. Attachments of which the volume or the node is not known are left alone.
-/

namespace VolumeAttacher.Reconcile

/-- A node has this name for the driver: the registered one, else the annotated one, else the one
that is kept. -/
inductive Backdrop.Knows (backdrop : Backdrop) (driver nodeName : String) (kept : Option String)
    (nodeId : String) : Prop
  | registered {node : CsiNode} (found : backdrop.csiNode nodeName = some node)
      (names : node.idFor? driver = some nodeId) : Knows backdrop driver nodeName kept nodeId
  | annotated {node : Node}
      (unregistered : ∀ node, backdrop.csiNode nodeName = some node → node.idFor? driver = none)
      (found : backdrop.node nodeName = some node) (names : node.idFor driver = .ok nodeId) :
      Knows backdrop driver nodeName kept nodeId
  | kept
      (unregistered : ∀ node, backdrop.csiNode nodeName = some node → node.idFor? driver = none)
      (unannotated : ∀ node, backdrop.node nodeName = some node →
        ∀ other, node.idFor driver ≠ .ok other)
      (isKept : kept = some nodeId) : Knows backdrop driver nodeName kept nodeId

namespace Reconciler

variable {reconciler : Reconciler} {refused : String → Prop} {before after : Installation}
  {published : Csi.PublishedVolumes} {attachment : VolumeAttachment} {result : Except Failure Unit}

/-- An attachment is about a volume and a node with these names for the driver. -/
def IsAbout (reconciler : Reconciler) (site : Site) (attachment : VolumeAttachment)
    (volumeId nodeId : String) : Prop :=
  ∃ volumeName volume source, attachment.volumeName? = some volumeName ∧
    Table.find? site.volumes volumeName = some volume ∧ volume.csiSource? = some source ∧
    source.volumeHandle = volumeId ∧
    site.backdrop.Knows reconciler.driver attachment.spec.nodeName
      (attachment.metadata.annotation? attachedNodeIdAnnotation) nodeId

/-- An attachment that is to be marked as detached when these volumes are published. -/
structure IsStray (reconciler : Reconciler) (site : Site) (published : Csi.PublishedVolumes)
    (attachment : VolumeAttachment) : Prop where
  addressed : attachment.spec.attacher = reconciler.driver
  attached : attachment.isAttached = true
  notDeleting : attachment.isDeleting = false
  unlisted : ∃ volumeId nodeId, reconciler.IsAbout site attachment volumeId nodeId ∧
    ¬ ∃ nodes, Table.find? published volumeId = some nodes ∧ nodeId ∈ nodes

theorem knows_of_registered {backdrop : Backdrop} {driver nodeName id nodeId : String}
    {kept : Option String}
    (registered : ((backdrop.csiNode nodeName).bind fun node => node.idFor? driver) = some id) :
    backdrop.Knows driver nodeName kept nodeId ↔ id = nodeId := by
  rcases Option.bind_eq_some_iff.mp registered with ⟨node, found, names⟩
  constructor
  · intro knows
    cases knows with
    | registered foundNode namesNode =>
        rw [found] at foundNode
        cases foundNode
        exact Option.some.inj (names.symm.trans namesNode)
    | annotated unregistered | kept unregistered => simp [unregistered node found] at names
  · rintro rfl
    exact .registered found names

theorem knows_of_unregistered {backdrop : Backdrop} {driver nodeName nodeId : String}
    {kept : Option String}
    (unregistered : ∀ node, backdrop.csiNode nodeName = some node → node.idFor? driver = none) :
    backdrop.Knows driver nodeName kept nodeId ↔
      (∃ node, backdrop.node nodeName = some node ∧ node.idFor driver = .ok nodeId) ∨
        (∀ node, backdrop.node nodeName = some node → ∀ other, node.idFor driver ≠ .ok other) ∧
          kept = some nodeId := by
  constructor
  · intro knows
    cases knows with
    | registered found names => simp [unregistered _ found] at names
    | annotated _ found names => exact .inl ⟨_, found, names⟩
    | kept _ unannotated isKept => exact .inr ⟨unannotated, isKept⟩
  · rintro (⟨node, found, names⟩ | ⟨unannotated, isKept⟩)
    · exact .annotated unregistered found names
    · exact .kept unregistered unannotated isKept

theorem nodeId_eq_ok_iff (backdrop : Backdrop) (reconciler : Reconciler) (nodeName : String)
    (kept : Option String) (nodeId : String) :
    backdrop.nodeId reconciler nodeName kept = .ok nodeId ↔
      backdrop.Knows reconciler.driver nodeName kept nodeId := by
  unfold Backdrop.nodeId
  split
  next id registered => rw [knows_of_registered registered, Except.ok.injEq]
  next registered =>
      rw [knows_of_unregistered (by simpa [Option.bind_eq_none_iff] using registered)]
      dsimp only
      cases found : backdrop.node nodeName with
      | none => cases kept <;> simp
      | some node =>
          cases names : node.idFor reconciler.driver with
          | ok id => simp [mapError_ok, names]
          | error fault => cases kept <;> simp [mapError_error, names]

theorem nodeId_found? (reconciler : Reconciler) (installation : Installation) (nodeName : String)
    (kept : Option String) :
    (reconciler.nodeId nodeName kept).run.result? installation.found? =
      some (.ok (installation.site.backdrop.nodeId reconciler nodeName kept)) := by
  have lookedUp : (Action.csiNode? nodeName).run.result? installation.found? =
      some (.ok (installation.site.backdrop.csiNode nodeName)) := rfl
  have looked : (Action.node? nodeName).run.result? installation.found? =
      some (.ok (installation.site.backdrop.node nodeName)) := rfl
  unfold Reconciler.nodeId Backdrop.nodeId
  rw [Program.result?_run_bind lookedUp]
  cases (installation.site.backdrop.csiNode nodeName).bind fun node =>
    node.idFor? reconciler.driver with
  | some id => rfl
  | none =>
      dsimp only
      rw [Program.result?_run_bind looked]
      cases installation.site.backdrop.node nodeName with
      | none => cases kept <;> rfl
      | some node =>
          dsimp only
          cases (node.idFor reconciler.driver).mapError Failure.nodeId with
          | ok id => rfl
          | error failure => cases kept <;> rfl

theorem publication?_found? (reconciler : Reconciler) (installation : Installation)
    (attachment : VolumeAttachment) :
    ∃ publication?, (reconciler.publication? attachment).run.result? installation.found? =
        some (.ok publication?) ∧
      ∀ volumeId nodeId, publication? = some (volumeId, nodeId) ↔
        reconciler.IsAbout installation.site attachment volumeId nodeId := by
  unfold Reconciler.publication? IsAbout
  cases attachment.volumeName? with
  | none => exact ⟨none, rfl, by simp⟩
  | some volumeName =>
      have looked : (Action.volume? volumeName).run.result? installation.found? =
          some (.ok (Table.find? installation.site.volumes volumeName)) := rfl
      dsimp only
      rw [Program.result?_run_bind looked]
      cases found : Table.find? installation.site.volumes volumeName with
      | none => exact ⟨none, rfl, by simp [found]⟩
      | some volume =>
          cases isSource : volume.csiSource? with
          | none =>
              have noHandle : volume.handle = .error (.notCsi volume.name) := by
                simp [PersistentVolume.handle, isSource]
              simp only [noHandle]
              exact ⟨none, rfl, by simp [found, isSource]⟩
          | some source =>
              simp only [handle_eq_ok isSource]
              have named := nodeId_found? reconciler installation
                attachment.spec.nodeName (attachment.metadata.annotation? attachedNodeIdAnnotation)
              rw [Reconciler.attachedNodeId, Program.result?_run_bind named]
              simp only [← nodeId_eq_ok_iff]
              cases installation.site.backdrop.nodeId reconciler attachment.spec.nodeName
                (attachment.metadata.annotation? attachedNodeIdAnnotation) with
              | error failure => exact ⟨none, rfl, by simp⟩
              | ok known =>
                  exact ⟨some (source.volumeHandle, known), rfl, by simp [found, isSource]⟩

/-- The attachment marked as detached. -/
def marked (attachment : VolumeAttachment) : VolumeAttachment :=
  attachment.mapStatus fun status => { status with attached := false }

theorem isPublished_eq_false_iff (published : Csi.PublishedVolumes) (volumeId nodeId : String) :
    isPublished published volumeId nodeId = false ↔
      ¬ ∃ nodes, Table.find? published volumeId = some nodes ∧ nodeId ∈ nodes := by
  unfold isPublished
  cases Table.find? published volumeId with
  | none => simp
  | some nodes => simp

theorem isSwept_iff (reconciler : Reconciler) (attachment : VolumeAttachment) :
    reconciler.isSwept attachment = true ↔ attachment.spec.attacher = reconciler.driver ∧
      attachment.isAttached = true ∧ attachment.isDeleting = false := by
  simp [isSwept, isAddressee, and_assoc]

theorem IsStray.isSwept {site : Site} (stray : reconciler.IsStray site published attachment) :
    reconciler.isSwept attachment = true :=
  (isSwept_iff _ _).mpr ⟨stray.addressed, stray.attached, stray.notDeleting⟩

/-- Whether an attachment that the sweep looks at is a stray, by what is found about it. -/
theorem isStray_iff_of_about {site : Site} (published : Csi.PublishedVolumes)
    (swept : reconciler.isSwept attachment = true) {publication? : Option (String × String)}
    (about : ∀ volumeId nodeId, publication? = some (volumeId, nodeId) ↔
      reconciler.IsAbout site attachment volumeId nodeId) :
    reconciler.IsStray site published attachment ↔
      publication?.any fun pair => !isPublished published pair.1 pair.2 := by
  rcases (isSwept_iff _ _).mp swept with ⟨addressed, attached, notDeleting⟩
  cases publication? with
  | none =>
      simp only [Option.any_none, Bool.false_eq_true, iff_false]
      rintro ⟨-, -, -, volumeId, nodeId, isAbout, -⟩
      simpa using (about volumeId nodeId).mpr isAbout
  | some pair =>
      simp only [Option.any_some, Bool.not_eq_true', isPublished_eq_false_iff]
      constructor
      · rintro ⟨-, -, -, volumeId, nodeId, isAbout, unlisted⟩
        rcases Option.some.inj ((about volumeId nodeId).mpr isAbout) with rfl
        exact unlisted
      · intro unlisted
        exact ⟨addressed, attached, notDeleting, _, _, (about _ _).mp rfl, unlisted⟩

theorem sweepAttachment_ends
    (ends : (reconciler.sweepAttachment published attachment).run.Ends
      (Installation.Answered refused) before result after) :
    result = .ok () ∧
      (¬ reconciler.IsStray before.site published attachment → after = before) ∧
      (reconciler.IsStray before.site published attachment →
        ∃ answer, Installation.Answered refused (.writeStatus attachment (marked attachment))
          before answer after) := by
  unfold sweepAttachment at ends
  split at ends
  next swept =>
      rcases publication?_found? reconciler before attachment with ⟨publication?, reads, about⟩
      rw [isStray_iff_of_about published swept about]
      rcases (Program.ends_run_bind _ _).mp ends with ⟨outcome, middle, looks, rest⟩
      rcases Installation.eq_of_found? reads looks with ⟨rfl, rfl⟩
      cases publication? with
      | none =>
          rcases rest with ⟨rfl, rfl⟩
          simp
      | some pair =>
          rcases pair with ⟨volumeId, nodeId⟩
          dsimp only at rest
          cases listed : isPublished published volumeId nodeId with
          | true =>
              rw [listed] at rest
              rcases rest with ⟨rfl, rfl⟩
              simp [listed]
          | false =>
              rw [listed] at rest
              rcases rest with ⟨answer, later, answers, rfl, rfl⟩
              refine ⟨rfl, fun notStray => ?_, fun _ => ⟨answer, answers⟩⟩
              simp [listed] at notStray
  next notSwept =>
      rcases ends with ⟨rfl, rfl⟩
      exact ⟨rfl, fun _ => rfl, fun stray => absurd stray.isSwept notSwept⟩

/-- The mark of an attachment that is stored as it was read is either refused, or stored. -/
theorem mark_answered {answer : Except Failure VolumeAttachment}
    (answered : Installation.Answered refused (.writeStatus attachment (marked attachment)) before
      answer after)
    (stored : Table.find? before.site.attachments attachment.name = some attachment)
    (notDeleting : attachment.isDeleting = false) :
    ∃ attachments,
      after = { before with
        site := { before.site with attachments }
        marks := attachment.name :: before.marks } ∧
      (∀ other ≠ attachment.name,
        Table.find? attachments other = Table.find? before.site.attachments other) ∧
      (refused attachment.name →
        Table.find? attachments attachment.name = some attachment) ∧
      (¬ refused attachment.name → ∃ version, Table.find? attachments attachment.name =
        some (Versioned.stamped (marked attachment) version)) := by
  rcases answered with ⟨attachments, rfl, written, grants, refuses⟩
  refine ⟨attachments, rfl, ?_⟩
  rcases written.cases grants stored with ⟨failure, -, rfl, isRefused⟩ | ⟨version, rfl, stores⟩
  · exact ⟨fun _ _ => rfl, fun _ => stored, fun notRefused => absurd isRefused notRefused⟩
  · refine ⟨stores.others, fun isRefused => ?_, fun _ => ⟨version, ?_⟩⟩
    · rcases refuses isRefused with ⟨failure, isError⟩
      contradiction
    · rcases stores.found with found | ⟨finished, -⟩
      · exact found
      · have stays : Shelf.isFinished (marked attachment) = false := by
          change (attachment.isDeleting && _) = false
          rw [notDeleting]
          rfl
        rw [Shelf.isFinished_stamped] at finished
        exact absurd (stays.symm.trans finished) Bool.false_ne_true

/-- What has become of an installation when some of the attachments have been visited. -/
structure Swept (reconciler : Reconciler) (refused : String → Prop)
    (published : Csi.PublishedVolumes) (before : Installation) (visited : List VolumeAttachment)
    (now : Installation) : Prop where
  rest : ∃ attachments marks,
    now = { before with site := { before.site with attachments }, marks }
  marks : ∀ name, name ∈ now.marks ↔ name ∈ before.marks ∨
    ∃ one ∈ visited, reconciler.IsStray before.site published one ∧ one.name = name
  marked : ∀ one ∈ visited, reconciler.IsStray before.site published one → ¬ refused one.name →
    ∃ version, Table.find? now.site.attachments one.name =
      some (Versioned.stamped (marked one) version)
  kept : ∀ name, (∀ one ∈ visited, reconciler.IsStray before.site published one →
    one.name = name → refused name) →
      Table.find? now.site.attachments name = Table.find? before.site.attachments name

theorem isStray_withAttachments (site : Site) (attachments : Table VolumeAttachment) :
    reconciler.IsStray { site with attachments } published attachment ↔
      reconciler.IsStray site published attachment :=
  ⟨fun stray => ⟨stray.addressed, stray.attached, stray.notDeleting, stray.unlisted⟩,
    fun stray => ⟨stray.addressed, stray.attached, stray.notDeleting, stray.unlisted⟩⟩

section Visit

variable {visited : List VolumeAttachment} {now : Installation}

theorem Swept.passOver (swept : Swept reconciler refused published before visited now)
    (notStray : ¬ reconciler.IsStray before.site published attachment) :
    Swept reconciler refused published before (visited ++ [attachment]) now where
  rest := swept.rest
  marks name := by
    rw [swept.marks name]
    simp [or_and_right, exists_or, notStray]
  marked one mem stray notRefused := by
    rcases List.mem_append.mp mem with mem | mem
    · exact swept.marked one mem stray notRefused
    · rcases List.mem_singleton.mp mem with rfl
      exact absurd stray notStray
  kept name spared := swept.kept name fun one mem => spared one (List.mem_append_left _ mem)

/-- An attachment that has not been visited is still as it was. -/
theorem Swept.stored (swept : Swept reconciler refused published before visited now)
    (stored : Table.find? before.site.attachments attachment.name = some attachment)
    (fresh : ∀ one ∈ visited, one.name ≠ attachment.name) :
    Table.find? now.site.attachments attachment.name = some attachment := by
  rw [← stored]
  exact swept.kept _ fun one mem _ same => absurd same (fresh one mem)

theorem Swept.mark (swept : Swept reconciler refused published before visited now)
    (stored : Table.find? before.site.attachments attachment.name = some attachment)
    (fresh : ∀ one ∈ visited, one.name ≠ attachment.name)
    (stray : reconciler.IsStray before.site published attachment)
    {answer : Except Failure VolumeAttachment}
    (answered : Installation.Answered refused
      (.writeStatus attachment (Reconciler.marked attachment)) now answer after) :
    Swept reconciler refused published before (visited ++ [attachment]) after := by
  rcases mark_answered answered (swept.stored stored fresh) stray.notDeleting with
      ⟨attachments, rfl, others, refuses, stores⟩
  rcases swept.rest with ⟨_, marks, rfl⟩
  constructor
  · exact ⟨attachments, _, rfl⟩
  · intro name
    have visits : (∃ one ∈ visited ++ [attachment],
        reconciler.IsStray before.site published one ∧ one.name = name) ↔
          (∃ one ∈ visited, reconciler.IsStray before.site published one ∧ one.name = name) ∨
            name = attachment.name := by
      simp [or_and_right, exists_or, stray, eq_comm]
    rw [visits, ← or_assoc, ← swept.marks name, or_comm]
    exact List.mem_cons
  · intro one mem strayOne notRefused
    rcases List.mem_append.mp mem with mem | mem
    · rcases swept.marked one mem strayOne notRefused with ⟨version, found⟩
      exact ⟨version, (others _ (fresh one mem)).trans found⟩
    · rcases List.mem_singleton.mp mem with rfl
      exact stores notRefused
  · intro name spared
    by_cases same : name = attachment.name
    · subst same
      exact (refuses (spared attachment (by simp) stray rfl)).trans stored.symm
    · refine (others name same).trans (swept.kept name ?_)
      exact fun one mem => spared one (List.mem_append_left _ mem)

theorem Swept.visit (swept : Swept reconciler refused published before visited now)
    (stored : Table.find? before.site.attachments attachment.name = some attachment)
    (fresh : ∀ one ∈ visited, one.name ≠ attachment.name)
    (ends : (reconciler.sweepAttachment published attachment).run.Ends
      (Installation.Answered refused) now result after) :
    result = .ok () ∧
      Swept reconciler refused published before (visited ++ [attachment]) after := by
  rcases sweepAttachment_ends ends with ⟨isOk, passesOver, marksIt⟩
  have sameSite : reconciler.IsStray now.site published attachment ↔
      reconciler.IsStray before.site published attachment := by
    rcases swept.rest with ⟨attachments, marks, rfl⟩
    exact isStray_withAttachments _ _
  rw [sameSite] at passesOver marksIt
  refine ⟨isOk, ?_⟩
  by_cases stray : reconciler.IsStray before.site published attachment
  · rcases marksIt stray with ⟨answer, answered⟩
    exact swept.mark stored fresh stray answered
  · rw [passesOver stray]
    exact swept.passOver stray

end Visit

theorem mem_values_iff {site : Site} (isNamed : site.IsNamed)
    (once : (Table.names site.attachments).Nodup) (attachment : VolumeAttachment) :
    attachment ∈ Table.values site.attachments ↔
      Table.find? site.attachments attachment.name = some attachment := by
  constructor
  · intro mem
    rcases List.mem_map.mp mem with ⟨⟨name, one⟩, memEntry, rfl⟩
    have found := Table.find?_of_nodup once memEntry
    rwa [isNamed.attachments found]
  · exact Table.mem_values_of_find?

theorem map_name_values {site : Site} (isNamed : site.IsNamed)
    (once : (Table.names site.attachments).Nodup) :
    (Table.values site.attachments).map VolumeAttachment.name = Table.names site.attachments := by
  rw [Table.values, Table.names, List.map_map]
  apply List.map_congr_left
  rintro ⟨name, attachment⟩ mem
  exact isNamed.attachments (Table.find?_of_nodup once mem)

theorem sweep_ends (isNamed : before.site.IsNamed)
    (once : (Table.names before.site.attachments).Nodup)
    (ends : (reconciler.sweep published).run.Ends (Installation.Answered refused) before result
      after) :
    result = .ok () ∧ Swept reconciler refused published before
      (Table.values before.site.attachments) after := by
  rcases (Program.ends_run_bind _ _).mp ends with ⟨outcome, middle, looks, rest⟩
  have reads : Action.attachments.run.result? before.found? =
      some (.ok (Table.values before.site.attachments)) := rfl
  rcases Installation.eq_of_found? reads looks with ⟨rfl, rfl⟩
  apply Program.ends_forM (Swept reconciler refused published middle) _ _ rest
  · intro visited one later split now outcome new swept endsVisit
    have stored : one ∈ Table.values middle.site.attachments := by simp [split]
    have distinct := once
    rw [← map_name_values isNamed once, split, List.map_append, List.nodup_append] at distinct
    refine swept.visit ((mem_values_iff isNamed once one).mp stored) ?_ endsVisit
    intro other mem
    exact distinct.2.2 _ (List.mem_map_of_mem mem) _ (by simp)
  · exact ⟨⟨_, _, rfl⟩, by simp, by simp, fun _ _ => rfl⟩

end Reconciler

end VolumeAttacher.Reconcile
