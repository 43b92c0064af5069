import VolumeAttacher.Csi.Capability
import VolumeAttacher.Failure
import VolumeAttacher.Object.VolumeAttachment

/-!
# What publishing a volume needs

The parts of a volume that a driver is given when it publishes the volume, and which driver that is.
-/

namespace VolumeAttacher

/-- The annotation with the driver that a volume without a CSI source has been handed over to. -/
def migratedToAnnotation : String := "pv.kubernetes.io/migrated-to"

/-- The annotation of an attachment with the driver's name of the node, for use at detaching. -/
def attachedNodeIdAnnotation : String := "csi.alpha.kubernetes.io/node-id"

namespace PersistentVolume

/-- Whether a driver is responsible for a volume: the driver of its CSI source, and for a volume
without one the driver that it has been handed over to. -/
def isOwnedBy (volume : PersistentVolume) (driver : String) : Bool :=
  match volume.csiSource? with
  | some source => source.driver = driver
  | none => volume.metadata.annotation? migratedToAnnotation = some driver

/-- The driver's name of the volume and whether it is to be published read-only. -/
def handle (volume : PersistentVolume) : Except VolumeFault (String × Bool) :=
  match volume.csiSource? with
  | some source => .ok (source.volumeHandle, source.readOnly.getD false)
  | none => .error (.notCsi volume.name)

def attributes (volume : PersistentVolume) : Table String :=
  (volume.csiSource?.bind CsiSource.volumeAttributes).getD []

def publishSecret? (volume : PersistentVolume) : Option SecretReference :=
  volume.csiSource?.bind CsiSource.controllerPublishSecretRef

def accessModes (volume : PersistentVolume) : List String :=
  (volume.spec.bind VolumeSpec.accessModes).getD []

/-- The access mode to publish with: several writers if that is allowed, else several readers or one
writer, but not both. -/
def accessMode (volume : PersistentVolume) : Except VolumeFault Csi.AccessMode :=
  let modes := volume.accessModes
  let manyWrite := modes.contains "ReadWriteMany"
  let manyRead := modes.contains "ReadOnlyMany"
  let oneWrites := modes.contains "ReadWriteOnce"
  if manyWrite then .ok .multiNodeMultiWriter
  else if manyRead && oneWrites then .error (.mixedAccessModes volume.name)
  else if manyRead then .ok .multiNodeReaderOnly
  else if oneWrites then .ok .singleNodeWriter
  else .error (.unsupportedAccessModes volume.name modes)

/-- The file system of the volume: its own, else the given default, else `ext4`. -/
def fileSystem (volume : PersistentVolume) (default : String) : String :=
  match (volume.csiSource?.bind CsiSource.fsType).filter fun fsType => !fsType.isEmpty with
  | some fsType => fsType
  | none => if default.isEmpty then "ext4" else default

def accessType (volume : PersistentVolume) (defaultFileSystem : String) : Csi.AccessType :=
  if volume.spec.bind VolumeSpec.volumeMode = some "Block" then .block
  else
    .mount (volume.fileSystem defaultFileSystem)
      ((volume.spec.bind VolumeSpec.mountOptions).getD [])

def capability (volume : PersistentVolume) (defaultFileSystem : String) :
    Except VolumeFault Csi.VolumeCapability :=
  volume.accessMode.map fun accessMode =>
    { accessMode, accessType := volume.accessType defaultFileSystem }

end PersistentVolume

end VolumeAttacher
