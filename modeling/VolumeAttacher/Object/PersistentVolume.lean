import VolumeAttacher.Object.Metadata
import VolumeAttacher.Object.VolumeParts

/-!
# Persistent volumes

The volumes of the cluster and where they come from. Only volumes with a CSI source can be attached
through a driver.
-/

namespace VolumeAttacher

/-- A reference to a secret. -/
structure SecretReference where
  name : Option String
  space : Option String
deriving DecidableEq

/-- The part of a volume's specification that its CSI driver reads. -/
structure CsiSource where
  driver : String
  volumeHandle : String
  /-- Whether the volume is published read-only. -/
  readOnly : Option Bool
  fsType : Option String
  volumeAttributes : Option (Table String)
  controllerPublishSecretRef : Option SecretReference
  controllerExpandSecretRef : Option SecretReference
  nodePublishSecretRef : Option SecretReference
  nodeExpandSecretRef : Option SecretReference := none
  nodeStageSecretRef : Option SecretReference := none
deriving DecidableEq

/-- A directory on the node. -/
structure HostPath where
  path : String
  kind : Option String
deriving DecidableEq

/-- The specification of a volume. -/
structure VolumeSpec where
  accessModes : Option (List String)
  volumeMode : Option String
  mountOptions : Option (List String)
  capacity : Option (Table String)
  hostPath : Option HostPath
  csi : Option CsiSource
  /-- The fields that attaching does not look at. -/
  others : Table Json := []
deriving DecidableEq

/-- A volume of the cluster. -/
structure PersistentVolume where
  metadata : Metadata
  spec : Option VolumeSpec
  status : Option Json := none
deriving DecidableEq

namespace SecretReference

def ofJson? (value : Json) : Option SecretReference := do
  let members ← value.members?
  return {
    name := ← Format.field? members "name" Json.text?
    space := ← Format.field? members "namespace" Json.text? }

def toJson (reference : SecretReference) : Json :=
  Format.written [("name", reference.name.map .text), ("namespace", reference.space.map .text)]

end SecretReference

namespace CsiSource

def ofJson? (value : Json) : Option CsiSource := do
  let members ← value.members?
  let secretRef? (name : String) := Format.field? members name SecretReference.ofJson?
  return {
    driver := ← Format.fieldD? members "driver" Json.text? ""
    volumeHandle := ← Format.fieldD? members "volumeHandle" Json.text? ""
    readOnly := ← Format.field? members "readOnly" Json.bool?
    fsType := ← Format.field? members "fsType" Json.text?
    volumeAttributes := ← Format.field? members "volumeAttributes" (Format.table? Json.text?)
    controllerPublishSecretRef := ← secretRef? "controllerPublishSecretRef"
    controllerExpandSecretRef := ← secretRef? "controllerExpandSecretRef"
    nodePublishSecretRef := ← secretRef? "nodePublishSecretRef"
    nodeExpandSecretRef := ← secretRef? "nodeExpandSecretRef"
    nodeStageSecretRef := ← secretRef? "nodeStageSecretRef" }

def toJson (source : CsiSource) : Json :=
  Format.written [
    ("controllerExpandSecretRef", source.controllerExpandSecretRef.map SecretReference.toJson),
    ("controllerPublishSecretRef", source.controllerPublishSecretRef.map SecretReference.toJson),
    ("driver", some (.text source.driver)),
    ("fsType", source.fsType.map .text),
    ("nodeExpandSecretRef", source.nodeExpandSecretRef.map SecretReference.toJson),
    ("nodePublishSecretRef", source.nodePublishSecretRef.map SecretReference.toJson),
    ("nodeStageSecretRef", source.nodeStageSecretRef.map SecretReference.toJson),
    ("readOnly", source.readOnly.map .bool),
    ("volumeAttributes", source.volumeAttributes.map Format.ofStringTable),
    ("volumeHandle", some (.text source.volumeHandle))]

end CsiSource

namespace HostPath

def ofJson? (value : Json) : Option HostPath := do
  let members ← value.members?
  return {
    path := ← Format.fieldD? members "path" Json.text? ""
    kind := ← Format.field? members "type" Json.text? }

def toJson (hostPath : HostPath) : Json :=
  Format.written [("path", some (.text hostPath.path)), ("type", hostPath.kind.map .text)]

end HostPath

namespace VolumeSpec

def ofJson? (value : Json) : Option VolumeSpec := do
  let members ← value.members?
  return {
    accessModes := ← Format.field? members "accessModes" (Format.list? Json.text?)
    volumeMode := ← Format.field? members "volumeMode" Json.text?
    mountOptions := ← Format.field? members "mountOptions" (Format.list? Json.text?)
    capacity := ← Format.field? members "capacity" (Format.table? Json.text?)
    hostPath := ← Format.field? members "hostPath" HostPath.ofJson?
    csi := ← Format.field? members "csi" CsiSource.ofJson?
    others := .ofList (← Shape.optionalFields? VolumeParts.specification members) }

def toJson (spec : VolumeSpec) : Json :=
  Format.written <| spec.others.map (fun entry => (entry.1, some entry.2)) ++ [
    ("accessModes", spec.accessModes.map Format.ofStrings),
    ("capacity", spec.capacity.map Format.ofStringTable),
    ("csi", spec.csi.map CsiSource.toJson),
    ("hostPath", spec.hostPath.map HostPath.toJson),
    ("mountOptions", spec.mountOptions.map Format.ofStrings),
    ("volumeMode", spec.volumeMode.map .text)]

end VolumeSpec

namespace PersistentVolume

def ofJson? (value : Json) : Option PersistentVolume := do
  let members ← Format.resource? "v1" "PersistentVolume" value
  return {
    metadata := ← Format.fieldD? members "metadata" Metadata.ofJson? {}
    spec := ← Format.field? members "spec" VolumeSpec.ofJson?
    status := ← Format.field? members "status" VolumeParts.status.read? }

def toJson (volume : PersistentVolume) : Json :=
  Format.written [
    ("apiVersion", some (.text "v1")),
    ("kind", some (.text "PersistentVolume")),
    ("metadata", some volume.metadata.toJson),
    ("spec", volume.spec.map VolumeSpec.toJson),
    ("status", volume.status)]

def name (volume : PersistentVolume) : String :=
  volume.metadata.displayName

def csiSource? (volume : PersistentVolume) : Option CsiSource :=
  volume.spec.bind VolumeSpec.csi

end PersistentVolume

end VolumeAttacher
