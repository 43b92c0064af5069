import VolumeAttacher.Csi.Message

/-!
# Capabilities

What the attacher asks of a volume and what it needs to know of a driver, with the messages that
carry them. Capabilities without a meaning here are dropped.
-/

namespace VolumeAttacher.Csi

/-- How nodes may use a volume. -/
inductive AccessMode where
  | singleNodeWriter
  | singleNodeReaderOnly
  | multiNodeReaderOnly
  | multiNodeSingleWriter
  | multiNodeMultiWriter
deriving DecidableEq, Repr

namespace AccessMode

def number : AccessMode → Int32
  | singleNodeWriter => 1
  | singleNodeReaderOnly => 2
  | multiNodeReaderOnly => 3
  | multiNodeSingleWriter => 4
  | multiNodeMultiWriter => 5

def name : AccessMode → String
  | singleNodeWriter => "SingleNodeWriter"
  | singleNodeReaderOnly => "SingleNodeReaderOnly"
  | multiNodeReaderOnly => "MultiNodeReaderOnly"
  | multiNodeSingleWriter => "MultiNodeSingleWriter"
  | multiNodeMultiWriter => "MultiNodeMultiWriter"

def all : List AccessMode :=
  [singleNodeWriter, singleNodeReaderOnly, multiNodeReaderOnly, multiNodeSingleWriter,
    multiNodeMultiWriter]

def ofName? (name : String) : Option AccessMode :=
  all.find? fun mode => mode.name = name

end AccessMode

/-- How a volume is used on the node. -/
inductive AccessType where
  | block
  | mount (fsType : String) (mountFlags : List String)
deriving DecidableEq, Repr

/-- The capability that a volume is published with. -/
structure VolumeCapability where
  accessMode : AccessMode
  accessType : AccessType
deriving DecidableEq, Repr

def VolumeCapability.toMessage (capability : VolumeCapability) : VolumeCapabilityMessage where
  accessMode := some ⟨capability.accessMode.number⟩
  accessType := some <|
    match capability.accessType with
    | .block => .block
    | .mount fsType mountFlags => .mount ⟨fsType, mountFlags⟩

/-- What the attacher needs to know of a driver. -/
inductive PluginFeature where
  | controllerService
  /-- The driver's volumes are not available everywhere. -/
  | volumeAccessibilityConstraints
deriving DecidableEq, Repr

namespace PluginFeature

def ofCapability? (capability : PluginCapability) : Option PluginFeature :=
  match capability.kind with
  | some (.service ⟨1⟩) => some controllerService
  | some (.service ⟨2⟩) => some volumeAccessibilityConstraints
  | _ => none

/-- The features that a driver announces, in its order. -/
def ofResponse (response : PluginCapabilitiesResponse) : List PluginFeature :=
  response.capabilities.filterMap ofCapability?

def name : PluginFeature → String
  | controllerService => "ControllerService"
  | volumeAccessibilityConstraints => "VolumeAccessibilityConstraints"

end PluginFeature

/-- The calls of a controller that matter here. -/
inductive ControllerFeature where
  | publishUnpublishVolume
  | listVolumes
  /-- Volumes can be published read-only. -/
  | publishReadonly
  | listVolumesPublishedNodes
deriving DecidableEq, Repr

namespace ControllerFeature

/-- All features, in order. -/
def all : List ControllerFeature :=
  [publishUnpublishVolume, listVolumes, publishReadonly, listVolumesPublishedNodes]

def ofCapability? (capability : ControllerServiceCapability) : Option ControllerFeature :=
  match capability.rpc with
  | some ⟨2⟩ => some publishUnpublishVolume
  | some ⟨3⟩ => some listVolumes
  | some ⟨8⟩ => some publishReadonly
  | some ⟨10⟩ => some listVolumesPublishedNodes
  | _ => none

def name : ControllerFeature → String
  | publishUnpublishVolume => "PublishUnpublishVolume"
  | listVolumes => "ListVolumes"
  | publishReadonly => "PublishReadonly"
  | listVolumesPublishedNodes => "ListVolumesPublishedNodes"

end ControllerFeature

/-- The set of features of a controller, in order and without repetitions. -/
structure ControllerFeatures where
  features : List ControllerFeature
deriving DecidableEq, Repr

namespace ControllerFeatures

def ofResponse (response : ControllerCapabilitiesResponse) : ControllerFeatures :=
  let announced := response.capabilities.filterMap ControllerFeature.ofCapability?
  ⟨ControllerFeature.all.filter announced.contains⟩

def contains (features : ControllerFeatures) (feature : ControllerFeature) : Bool :=
  features.features.contains feature

def supportsAttach (features : ControllerFeatures) : Bool :=
  features.contains .publishUnpublishVolume

/-- Whether the driver heeds that a volume is to be published read-only. -/
def supportsReadonlyAttach (features : ControllerFeatures) : Bool :=
  features.contains .publishReadonly

/-- Whether a listing tells on which nodes volumes are published. -/
def supportsListPublishedNodes (features : ControllerFeatures) : Bool :=
  features.contains .listVolumes && features.contains .listVolumesPublishedNodes

end ControllerFeatures

end VolumeAttacher.Csi
