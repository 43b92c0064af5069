import VolumeAttacher.Object.Node
import VolumeAttacher.Object.VolumeAttachment

/-!
# The store of the cluster

The store holds the objects of the cluster and gives each stored version of an attachment or volume
a number of its own. A write names the object that it was computed from, and it is refused unless
the stored object is in that object's version; so no write overwrites a change that its writer has
not seen. An object whose deletion has been asked for is dropped when its last finalizer goes.

Faults can be queued: each write takes the next one, and a fault other than `Fault.none` refuses the
write.
-/

namespace VolumeAttacher

/-- An object with metadata, in which the store keeps its version. -/
class Versioned (α : Type) where
  metadata : α → Metadata
  withMetadata : α → Metadata → α
  metadata_withMetadata : ∀ object data, metadata (withMetadata object data) = data

instance : Versioned VolumeAttachment where
  metadata := VolumeAttachment.metadata
  withMetadata attachment metadata := { attachment with metadata }
  metadata_withMetadata _ _ := rfl

instance : Versioned PersistentVolume where
  metadata := PersistentVolume.metadata
  withMetadata volume metadata := { volume with metadata }
  metadata_withMetadata _ _ := rfl

/-- What is injected into a write. -/
inductive Fault where
  | none
  /-- The write is refused as if the object had changed. -/
  | conflict
  /-- The write is refused as not allowed. -/
  | forbidden
deriving DecidableEq, Repr

/-- Why a write was refused. -/
inductive Refusal where
  | notFound
  | conflict
  /-- The write is not allowed. -/
  | forbidden
  | stale
deriving DecidableEq, Repr

/-- The stored objects of one kind, with the number of the last version of each name. -/
structure Shelf (α : Type) where
  objects : Table α := []
  versions : Table Nat := []
deriving DecidableEq

namespace Shelf

variable {α : Type} [Versioned α]

/-- The object of a name. -/
def find? (shelf : Shelf α) (name : String) : Option α :=
  Table.find? shelf.objects name

/-- The number of the next version of a name. -/
def nextVersion (shelf : Shelf α) (name : String) : Nat :=
  (Table.find? shelf.versions name).getD 0 + 1

/-- An object in a version. -/
def inVersion (object : α) (version : Nat) : α :=
  Versioned.withMetadata object
    { Versioned.metadata object with resourceVersion := some (toString version) }

/-- Stores an object under a name in the next version, and returns it as stored. -/
def put (shelf : Shelf α) (name : String) (object : α) : α × Shelf α :=
  let version := shelf.nextVersion name
  let stored := inVersion object version
  (stored,
    { objects := Table.insert shelf.objects name stored
      versions := Table.insert shelf.versions name version })

/-- Drops an object. -/
def remove (shelf : Shelf α) (name : String) : Shelf α :=
  { shelf with objects := Table.erase shelf.objects name }

/-- Whether an object is to be dropped: its deletion has been asked for, and no finalizer is left.
-/
def isFinished (object : α) : Bool :=
  let metadata := Versioned.metadata object
  metadata.isDeleting && metadata.finalizerList.isEmpty

/-- Drops an object if it is to be dropped. -/
def dropFinished (shelf : Shelf α) (name : String) (object : α) : Shelf α :=
  if isFinished object then shelf.remove name else shelf

/-- Why a write based on an object would be refused, given the fault for it. -/
def refusal? (stored : α) (fault : Fault) (old : α) : Option Refusal :=
  match fault with
  | .conflict => some .conflict
  | .forbidden => some .forbidden
  | .none =>
      if (Versioned.metadata stored).resourceVersion = (Versioned.metadata old).resourceVersion then
        none
      else some .stale

/-- The stored object that a write based on an object applies to, unless the write is refused. -/
def target (shelf : Shelf α) (name : String) (fault : Fault) (old : α) : Except Refusal α :=
  match shelf.find? name with
  | none => .error .notFound
  | some stored =>
      match refusal? stored fault old with
      | some refusal => .error refusal
      | none => .ok stored

end Shelf

/-- The store of the cluster. -/
structure Store where
  attachments : Shelf VolumeAttachment := {}
  volumes : Shelf PersistentVolume := {}
  nodes : Table Node := []
  csiNodes : Table CsiNode := []
  secrets : List ((String × String) × Secret) := []
  faults : List Fault := []
  secretsUnreadable : Bool := false

/-- A change of a stored object. -/
inductive Change (α : Type) where
  | added (object : α)
  | updated (old new : α)
  | deleted (object : α)
deriving DecidableEq

namespace Store

/-- Takes the fault for a write. -/
def takeFault (store : Store) : Fault × Store :=
  match store.faults with
  | [] => (.none, store)
  | fault :: faults => (fault, { store with faults })

/-- The outcome of a write: the object as stored and the change of the store, or the refusal. -/
abbrev Outcome (α : Type) : Type :=
  Except Refusal (α × Change α)

/-- Writes an attachment but for its status, which stays as it is stored. -/
def writeAttachment (store : Store) (old new : VolumeAttachment) :
    Outcome VolumeAttachment × Store :=
  let (fault, store) := store.takeFault
  match store.attachments.target old.name fault old with
  | .error refusal => (.error refusal, store)
  | .ok stored =>
      let (written, attachments) :=
        store.attachments.put old.name { new with status := stored.status }
      let change : Change VolumeAttachment :=
        if Shelf.isFinished written then .deleted written else .updated stored written
      (.ok (written, change),
        { store with attachments := attachments.dropFinished old.name written })

/-- Writes the status of an attachment, and nothing else. -/
def writeStatus (store : Store) (old new : VolumeAttachment) :
    Outcome VolumeAttachment × Store :=
  let (fault, store) := store.takeFault
  match store.attachments.target old.name fault old with
  | .error refusal => (.error refusal, store)
  | .ok stored =>
      let (written, attachments) :=
        store.attachments.put old.name { stored with status := new.status }
      (.ok (written, .updated stored written), { store with attachments })

/-- Writes a volume. -/
def writeVolume (store : Store) (old new : PersistentVolume) :
    Outcome PersistentVolume × Store :=
  let (fault, store) := store.takeFault
  match store.volumes.target old.name fault old with
  | .error refusal => (.error refusal, store)
  | .ok stored =>
      let (written, volumes) := store.volumes.put old.name new
      let change : Change PersistentVolume :=
        if Shelf.isFinished written then .deleted written else .updated stored written
      (.ok (written, change), { store with volumes := volumes.dropFinished old.name written })

/-- Stores an attachment. -/
def putAttachment (store : Store) (attachment : VolumeAttachment) : Store :=
  { store with attachments := (store.attachments.put attachment.name attachment).2 }

/-- Stores a volume. -/
def putVolume (store : Store) (volume : PersistentVolume) : Store :=
  { store with volumes := (store.volumes.put volume.name volume).2 }

/-- Stores a node. -/
def putNode (store : Store) (node : Node) : Store :=
  { store with nodes := Table.insert store.nodes node.name node }

/-- Stores the drivers on a node. -/
def putCsiNode (store : Store) (node : CsiNode) : Store :=
  { store with csiNodes := Table.insert store.csiNodes node.name node }

/-- Drops a secret. -/
def removeSecret (store : Store) (space name : String) : Store :=
  { store with secrets := store.secrets.filter fun entry => entry.1 ≠ (space, name) }

/-- Stores a secret. -/
def putSecret (store : Store) (secret : Secret) : Store :=
  let key := (secret.metadata.space.getD "", secret.metadata.displayName)
  { store with secrets := (key, secret) :: (store.removeSecret key.1 key.2).secrets }

/-- The secret of a name. -/
def secret? (store : Store) (space name : String) : Option Secret :=
  store.secrets.lookup (space, name)

end Store

end VolumeAttacher
