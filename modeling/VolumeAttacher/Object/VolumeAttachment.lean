import VolumeAttacher.Object.PersistentVolume

/-!
# Volume attachments

A volume attachment asks that a driver attach a volume to a node, and its status says how far that
has come.
-/

namespace VolumeAttacher

/-- What went wrong last, and when. -/
structure VolumeError where
  message : Option String
  time : Option Timestamp
deriving DecidableEq

/-- Which volume is to be attached. -/
structure AttachmentSource where
  persistentVolumeName : Option String
  inlineVolumeSpec : Option VolumeSpec
deriving DecidableEq

/-- What an attachment asks for. -/
structure AttachmentSpec where
  attacher : String
  nodeName : String
  source : AttachmentSource
deriving DecidableEq

/-- How far an attachment has come. -/
structure AttachmentStatus where
  attached : Bool := false
  attachmentMetadata : Option (Table String) := none
  /-- The last error of attaching. -/
  attachError : Option VolumeError := none
  /-- The last error of detaching. -/
  detachError : Option VolumeError := none
deriving DecidableEq

/-- A request to attach a volume to a node. -/
structure VolumeAttachment where
  metadata : Metadata
  spec : AttachmentSpec
  status : Option AttachmentStatus
deriving DecidableEq

namespace VolumeError

def ofJson? (value : Json) : Option VolumeError := do
  let members ← value.members?
  return {
    message := ← Format.field? members "message" Json.text?
    time := ← Format.field? members "time" Format.timestamp? }

def toJson (error : VolumeError) : Json :=
  Format.written [("message", error.message.map .text), ("time", error.time.map Format.ofTimestamp)]

end VolumeError

namespace AttachmentSource

/-- The source that names no volume. -/
def none : AttachmentSource := ⟨.none, .none⟩

def ofJson? (value : Json) : Option AttachmentSource := do
  let members ← value.members?
  return {
    persistentVolumeName := ← Format.field? members "persistentVolumeName" Json.text?
    inlineVolumeSpec := ← Format.field? members "inlineVolumeSpec" VolumeSpec.ofJson? }

def toJson (source : AttachmentSource) : Json :=
  Format.written [
    ("inlineVolumeSpec", source.inlineVolumeSpec.map VolumeSpec.toJson),
    ("persistentVolumeName", source.persistentVolumeName.map .text)]

end AttachmentSource

namespace AttachmentSpec

def ofJson? (value : Json) : Option AttachmentSpec := do
  let members ← value.members?
  return {
    attacher := ← Format.fieldD? members "attacher" Json.text? ""
    nodeName := ← Format.fieldD? members "nodeName" Json.text? ""
    source := ← Format.fieldD? members "source" AttachmentSource.ofJson? .none }

def toJson (spec : AttachmentSpec) : Json :=
  Format.written [
    ("attacher", some (.text spec.attacher)),
    ("nodeName", some (.text spec.nodeName)),
    ("source", some spec.source.toJson)]

end AttachmentSpec

namespace AttachmentStatus

def ofJson? (value : Json) : Option AttachmentStatus := do
  let members ← value.members?
  return {
    attached := ← Format.fieldD? members "attached" Json.bool? false
    attachmentMetadata := ← Format.field? members "attachmentMetadata" (Format.table? Json.text?)
    attachError := ← Format.field? members "attachError" VolumeError.ofJson?
    detachError := ← Format.field? members "detachError" VolumeError.ofJson? }

def toJson (status : AttachmentStatus) : Json :=
  Format.written [
    ("attachError", status.attachError.map VolumeError.toJson),
    ("attached", some (.bool status.attached)),
    ("attachmentMetadata", status.attachmentMetadata.map Format.ofStringTable),
    ("detachError", status.detachError.map VolumeError.toJson)]

end AttachmentStatus

namespace VolumeAttachment

def ofJson? (value : Json) : Option VolumeAttachment := do
  let members ← Format.resource? "storage.k8s.io/v1" "VolumeAttachment" value
  return {
    metadata := ← Format.fieldD? members "metadata" Metadata.ofJson? {}
    spec := ← Format.fieldD? members "spec" AttachmentSpec.ofJson? ⟨"", "", .none⟩
    status := ← Format.field? members "status" AttachmentStatus.ofJson? }

def toJson (attachment : VolumeAttachment) : Json :=
  Format.written [
    ("apiVersion", some (.text "storage.k8s.io/v1")),
    ("kind", some (.text "VolumeAttachment")),
    ("metadata", some attachment.metadata.toJson),
    ("spec", some attachment.spec.toJson),
    ("status", attachment.status.map AttachmentStatus.toJson)]

def name (attachment : VolumeAttachment) : String :=
  attachment.metadata.displayName

/-- The name of the volume to attach, if one is given. -/
def volumeName? (attachment : VolumeAttachment) : Option String :=
  attachment.spec.source.persistentVolumeName.filter fun name => !name.isEmpty

def isAttached (attachment : VolumeAttachment) : Bool :=
  attachment.status.any AttachmentStatus.attached

def isDeleting (attachment : VolumeAttachment) : Bool :=
  attachment.metadata.isDeleting

/-- The attachment with another status; an absent one counts as the initial status. -/
def withStatus (attachment : VolumeAttachment) (change : AttachmentStatus → AttachmentStatus) :
    VolumeAttachment :=
  { attachment with status := some (change (attachment.status.getD {})) }

/-- The attachment with another status if it has one. -/
def mapStatus (attachment : VolumeAttachment) (change : AttachmentStatus → AttachmentStatus) :
    VolumeAttachment :=
  { attachment with status := attachment.status.map change }

/-- The attachment without its version, its managed fields and its error records; a status that says
nothing else is dropped. -/
def essence (attachment : VolumeAttachment) : VolumeAttachment :=
  let status := attachment.status.map fun status =>
    { status with attachError := none, detachError := none }
  { attachment with
    metadata := { attachment.metadata with resourceVersion := none, managedFields := none }
    status := status.filter (· ≠ {}) }

/-- Whether a change of an attachment is worth work: it is not if only the version, the managed
fields and the error records differ, which are what the attacher itself writes. -/
def isChangeOf (new old : VolumeAttachment) : Bool :=
  old.essence ≠ new.essence

end VolumeAttachment

end VolumeAttacher
