import VolumeAttacher.Table

/-!
# Messages to and from a driver

The requests and responses of the seven calls: plugin information, plugin capabilities, probe,
controller capabilities, publish, unpublish and list. Enumerations are kept as the numbers that are
sent, since a driver may send numbers without a meaning here. An absent part differs from an empty
one.
-/

namespace VolumeAttacher.Csi

/-- Asks for the name of the driver. -/
structure PluginInfoRequest where
deriving DecidableEq

/-- The name of the driver. -/
structure PluginInfoResponse where
  name : String := ""
  vendorVersion : String := ""
  manifest : Table String := []
deriving DecidableEq

/-- Asks for the capabilities of the driver. -/
structure PluginCapabilitiesRequest where
deriving DecidableEq

/-- The number of a service. -/
structure Service where
  kind : Int32 := 0
deriving DecidableEq

/-- The number of a way to expand volumes. -/
structure VolumeExpansion where
  kind : Int32 := 0
deriving DecidableEq

/-- What a capability of a driver is about. -/
inductive PluginCapabilityKind where
  | service (service : Service)
  | volumeExpansion (expansion : VolumeExpansion)
deriving DecidableEq

/-- One capability of the driver. -/
structure PluginCapability where
  kind : Option PluginCapabilityKind := none
deriving DecidableEq

/-- The capabilities of the driver. -/
structure PluginCapabilitiesResponse where
  capabilities : List PluginCapability := []
deriving DecidableEq

/-- Asks whether the driver is ready. -/
structure ProbeRequest where
deriving DecidableEq

/-- A truth value that may be absent from a message. -/
structure BoolValue where
  value : Bool := false
deriving DecidableEq

/-- Whether the driver is ready. -/
structure ProbeResponse where
  /-- The answer; a driver that gives none is ready. -/
  ready : Option BoolValue := none
deriving DecidableEq

/-- Asks for the capabilities of the driver's controller. -/
structure ControllerCapabilitiesRequest where
deriving DecidableEq

/-- The number of a call that the controller implements. -/
structure ControllerRpc where
  kind : Int32 := 0
deriving DecidableEq

/-- One capability of the controller. -/
structure ControllerServiceCapability where
  rpc : Option ControllerRpc := none
deriving DecidableEq

/-- The capabilities of the driver's controller. -/
structure ControllerCapabilitiesResponse where
  capabilities : List ControllerServiceCapability := []
deriving DecidableEq

/-- The number of an access mode. -/
structure AccessModeMessage where
  mode : Int32 := 0
deriving DecidableEq

/-- How a file system is mounted. -/
structure MountVolume where
  fsType : String := ""
  mountFlags : List String := []
deriving DecidableEq

/-- How a volume is used on the node. -/
inductive AccessTypeMessage where
  | block
  | mount (mount : MountVolume)
deriving DecidableEq

/-- The capability that a volume is published with. -/
structure VolumeCapabilityMessage where
  accessMode : Option AccessModeMessage := none
  accessType : Option AccessTypeMessage := none
deriving DecidableEq

/-- Asks to make a volume available on a node. -/
structure PublishRequest where
  volumeId : String := ""
  nodeId : String := ""
  volumeCapability : Option VolumeCapabilityMessage := none
  /-- Whether the volume is published read-only. -/
  readonly : Bool := false
  secrets : Table String := []
  volumeContext : Table String := []
deriving DecidableEq

/-- The volume is available on the node. -/
structure PublishResponse where
  publishContext : Table String := []
deriving DecidableEq

/-- Asks to make a volume unavailable on a node. -/
structure UnpublishRequest where
  volumeId : String := ""
  nodeId : String := ""
  secrets : Table String := []
deriving DecidableEq

/-- The volume is unavailable on the node. -/
structure UnpublishResponse where
deriving DecidableEq

/-- Asks for one page of the driver's volumes. -/
structure ListRequest where
  /-- The greatest number of entries of a page; zero leaves it to the driver. -/
  maxEntries : Int32 := 0
  /-- Where the page starts; the empty token is the start of the list. -/
  startingToken : String := ""
deriving DecidableEq

/-- A volume of the driver. -/
structure VolumeMessage where
  capacityBytes : Int64 := 0
  volumeId : String := ""
  volumeContext : Table String := []
deriving DecidableEq

/-- Where a volume is published. -/
structure VolumeStatus where
  publishedNodeIds : List String := []
deriving DecidableEq

/-- A volume and where it is published. -/
structure ListEntry where
  volume : Option VolumeMessage := none
  status : Option VolumeStatus := none
deriving DecidableEq

/-- One page of the driver's volumes. -/
structure ListResponse where
  entries : List ListEntry := []
  /-- Where the next page starts; empty after the last page. -/
  nextToken : String := ""
deriving DecidableEq

end VolumeAttacher.Csi
