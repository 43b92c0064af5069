import VolumeAttacher.Cluster.Informer
import VolumeAttacher.Failure

/-!
# A simulated watch of the cluster

A cluster that answers listings with prepared objects and tells of single changes, and the informers
that follow it, one for each kind. A listing may never be answered; when the informers are stopped
they follow no more. A change of an object without a version breaks the watch, so that everything is
listed again.
-/

namespace VolumeAttacher.Simulation

/-- The objects of one kind, as the cluster lists them and as they are cached. -/
structure WatchedKind (α : Type) where
  served : List α := []
  hanging : Bool := false
  stopped : Bool := false
  informer : Informer α := {}

namespace WatchedKind

variable {α : Type} [Versioned α]

/-- The informer follows events, unless it cannot. -/
def follow (kind : WatchedKind α) (events : List (WatchEvent α)) :
    List (Change α) × WatchedKind α :=
  if kind.hanging || kind.stopped then ([], kind)
  else
    let (changes, informer) := kind.informer.follow events
    (changes, { kind with informer })

def list (kind : WatchedKind α) : List (Change α) × WatchedKind α :=
  kind.follow (Informer.listingEvents kind.served)

def relist (kind : WatchedKind α) (served : List α) : List (Change α) × WatchedKind α :=
  list { kind with served }

def hasVersion (object : α) : Bool :=
  ((Versioned.metadata object).resourceVersion.getD "") ≠ ""

def tell (kind : WatchedKind α) (object : α) (event : WatchEvent α) :
    List (Change α) × WatchedKind α :=
  if hasVersion object then kind.follow [event] else kind.list

def versions (kind : WatchedKind α) : Table (Option String) :=
  .ofList <| kind.informer.cache.map fun (reference, object) =>
    (reference.name, (Versioned.metadata object).resourceVersion)

def isHopeful (kind : WatchedKind α) : Bool :=
  !kind.stopped && !kind.informer.failed

/-- The cached object of a name. Names alone stand for objects outside of name spaces. -/
def find? (kind : WatchedKind α) (name : String) : Option α :=
  kind.informer.cache.find? { name }

end WatchedKind

/-- All informers. -/
structure Watching where
  attachments : WatchedKind VolumeAttachment := {}
  volumes : WatchedKind PersistentVolume := {}
  nodes : WatchedKind Node := {}
  csiNodes : WatchedKind CsiNode := {}

/-- The changes that are told of. -/
structure Notifications where
  attachments : List (Change VolumeAttachment) := []
  volumes : List (Change PersistentVolume) := []

namespace Watching

def start (watching : Watching) : Notifications × Watching :=
  let (attachmentChanges, attachments) := watching.attachments.list
  let (volumeChanges, volumes) := watching.volumes.list
  (⟨attachmentChanges, volumeChanges⟩,
    { attachments, volumes, nodes := watching.nodes.list.2, csiNodes := watching.csiNodes.list.2 })

def stop (watching : Watching) : Watching where
  attachments := { watching.attachments with stopped := true }
  volumes := { watching.volumes with stopped := true }
  nodes := { watching.nodes with stopped := true }
  csiNodes := { watching.csiNodes with stopped := true }

/-- How far the caches are: each kind with whether its cache is filled and whether it may still be,
in the order in which they are waited for. -/
def progress (watching : Watching) : List (ObjectKind × Bool × Bool) :=
  let state {α : Type} [Versioned α] (kind : WatchedKind α) : Bool × Bool :=
    (kind.informer.synced, kind.isHopeful)
  [(.volumeAttachment, state watching.attachments), (.persistentVolume, state watching.volumes),
    (.node, state watching.nodes), (.csiNode, state watching.csiNodes)]

/-- Waits for the caches without waiting: `none` if this takes longer. -/
def sync? (watching : Watching) : Option (Except Failure Unit) :=
  match watching.progress.find? fun entry => !entry.2.1 with
  | none => some (.ok ())
  | some (kind, _, hopeful) => if hopeful then none else some (.error (.cacheSync kind))

end Watching

end VolumeAttacher.Simulation
