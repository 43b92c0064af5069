import VolumeAttacher.Csi.Message
import VolumeAttacher.Wire.Message

/-!
# The binary form of the messages

The tag and the name of each field of the messages to and from a driver. Of two fields for parts
that exclude each other, the later one counts; two fields for the same part are taken up together.
-/

namespace VolumeAttacher.Csi

open Wire (Field Message)

instance : Message PluginInfoRequest where
  name? := some "GetPluginInfoRequest"
  initial := {}
  fields _ := []
  slot? _ _ := none

instance : Message PluginInfoResponse where
  name? := some "GetPluginInfoResponse"
  initial := {}
  fields message :=
    Wire.textField 1 message.name ++ Wire.textField 2 message.vendorVersion
      ++ Wire.tableFields 3 message.manifest
  slot? message
    | 1 => some (.text "name" fun name => { message with name })
    | 2 => some (.text "vendor_version" fun vendorVersion => { message with vendorVersion })
    | 3 => some (.entry "manifest" message.manifest fun manifest => { message with manifest })
    | _ => none

instance : Message PluginCapabilitiesRequest where
  name? := some "GetPluginCapabilitiesRequest"
  initial := {}
  fields _ := []
  slot? _ _ := none

instance : Message Service where
  name? := some "Service"
  initial := {}
  fields message := Wire.int32Field 1 message.kind
  slot? message
    | 1 => some (.int32 "r#type" fun kind => { message with kind })
    | _ => none

instance : Message VolumeExpansion where
  name? := some "VolumeExpansion"
  initial := {}
  fields message := Wire.int32Field 1 message.kind
  slot? message
    | 1 => some (.int32 "r#type" fun kind => { message with kind })
    | _ => none

instance : Message PluginCapability where
  name? := some "PluginCapability"
  initial := {}
  fields message :=
    match message.kind with
    | none => []
    | some (.service service) => [Wire.partField 1 service]
    | some (.volumeExpansion expansion) => [Wire.partField 2 expansion]
  slot? message
    | 1 =>
        let current : Service :=
          match message.kind with
          | some (.service service) => service
          | _ => {}
        some (.part "r#type" current fun service => { kind := some (.service service) })
    | 2 =>
        let current : VolumeExpansion :=
          match message.kind with
          | some (.volumeExpansion expansion) => expansion
          | _ => {}
        some (.part "r#type" current fun expansion => { kind := some (.volumeExpansion expansion) })
    | _ => none

instance : Message PluginCapabilitiesResponse where
  name? := some "GetPluginCapabilitiesResponse"
  initial := {}
  fields message := message.capabilities.map (Wire.partField 1)
  slot? message
    | 1 =>
        some (.parts "capabilities" message.capabilities fun capabilities =>
          { message with capabilities })
    | _ => none

instance : Message ProbeRequest where
  name? := some "ProbeRequest"
  initial := {}
  fields _ := []
  slot? _ _ := none

instance : Message BoolValue where
  name? := none
  initial := {}
  fields message := Wire.boolField 1 message.value
  slot? message
    | 1 => some (.bool "value" fun value => { message with value })
    | _ => none

instance : Message ProbeResponse where
  name? := some "ProbeResponse"
  initial := {}
  fields message := Wire.optionalPart 1 message.ready
  slot? message
    | 1 => some (.optionalPart "ready" message.ready fun ready => { message with ready })
    | _ => none

instance : Message ControllerCapabilitiesRequest where
  name? := some "ControllerGetCapabilitiesRequest"
  initial := {}
  fields _ := []
  slot? _ _ := none

instance : Message ControllerRpc where
  name? := some "Rpc"
  initial := {}
  fields message := Wire.int32Field 1 message.kind
  slot? message
    | 1 => some (.int32 "r#type" fun kind => { message with kind })
    | _ => none

instance : Message ControllerServiceCapability where
  name? := some "ControllerServiceCapability"
  initial := {}
  fields message := Wire.optionalPart 1 message.rpc
  slot? message
    | 1 => some (.optionalPart "r#type" message.rpc fun rpc => { message with rpc })
    | _ => none

instance : Message ControllerCapabilitiesResponse where
  name? := some "ControllerGetCapabilitiesResponse"
  initial := {}
  fields message := message.capabilities.map (Wire.partField 1)
  slot? message
    | 1 =>
        some (.parts "capabilities" message.capabilities fun capabilities =>
          { message with capabilities })
    | _ => none

instance : Message AccessModeMessage where
  name? := some "AccessMode"
  initial := {}
  fields message := Wire.int32Field 1 message.mode
  slot? message
    | 1 => some (.int32 "mode" fun mode => { message with mode })
    | _ => none

instance : Message MountVolume where
  name? := some "MountVolume"
  initial := {}
  fields message := Wire.textField 1 message.fsType ++ Wire.textFields 2 message.mountFlags
  slot? message
    | 1 => some (.text "fs_type" fun fsType => { message with fsType })
    | 2 =>
        some (.text "mount_flags" fun flag =>
          { message with mountFlags := message.mountFlags ++ [flag] })
    | _ => none

/-- The part of a capability for a raw block device, which has no fields. -/
structure BlockVolume where
deriving DecidableEq

instance : Message BlockVolume where
  name? := some "BlockVolume"
  initial := {}
  fields _ := []
  slot? _ _ := none

instance : Message VolumeCapabilityMessage where
  name? := some "VolumeCapability"
  initial := {}
  fields message :=
    (match message.accessType with
      | none => []
      | some .block => [Wire.partField 1 ({} : BlockVolume)]
      | some (.mount mount) => [Wire.partField 2 mount])
      ++ Wire.optionalPart 3 message.accessMode
  slot? message
    | 1 =>
        some (.part "access_type" ({} : BlockVolume) fun _ =>
          { message with accessType := some .block })
    | 2 =>
        let current : MountVolume :=
          match message.accessType with
          | some (.mount mount) => mount
          | _ => {}
        some (.part "access_type" current fun mount =>
          { message with accessType := some (.mount mount) })
    | 3 =>
        some (.optionalPart "access_mode" message.accessMode fun accessMode =>
          { message with accessMode })
    | _ => none

instance : Message PublishRequest where
  name? := some "ControllerPublishVolumeRequest"
  initial := {}
  fields message :=
    Wire.textField 1 message.volumeId ++ Wire.textField 2 message.nodeId
      ++ Wire.optionalPart 3 message.volumeCapability ++ Wire.boolField 4 message.readonly
      ++ Wire.tableFields 5 message.secrets ++ Wire.tableFields 6 message.volumeContext
  slot? message
    | 1 => some (.text "volume_id" fun volumeId => { message with volumeId })
    | 2 => some (.text "node_id" fun nodeId => { message with nodeId })
    | 3 =>
        some (.optionalPart "volume_capability" message.volumeCapability fun volumeCapability =>
          { message with volumeCapability })
    | 4 => some (.bool "readonly" fun readonly => { message with readonly })
    | 5 => some (.entry "secrets" message.secrets fun secrets => { message with secrets })
    | 6 =>
        some (.entry "volume_context" message.volumeContext fun volumeContext =>
          { message with volumeContext })
    | _ => none

instance : Message PublishResponse where
  name? := some "ControllerPublishVolumeResponse"
  initial := {}
  fields message := Wire.tableFields 1 message.publishContext
  slot? message
    | 1 =>
        some (.entry "publish_context" message.publishContext fun publishContext =>
          { message with publishContext })
    | _ => none

instance : Message UnpublishRequest where
  name? := some "ControllerUnpublishVolumeRequest"
  initial := {}
  fields message :=
    Wire.textField 1 message.volumeId ++ Wire.textField 2 message.nodeId
      ++ Wire.tableFields 3 message.secrets
  slot? message
    | 1 => some (.text "volume_id" fun volumeId => { message with volumeId })
    | 2 => some (.text "node_id" fun nodeId => { message with nodeId })
    | 3 => some (.entry "secrets" message.secrets fun secrets => { message with secrets })
    | _ => none

instance : Message UnpublishResponse where
  name? := some "ControllerUnpublishVolumeResponse"
  initial := {}
  fields _ := []
  slot? _ _ := none

instance : Message ListRequest where
  name? := some "ListVolumesRequest"
  initial := {}
  fields message := Wire.int32Field 1 message.maxEntries ++ Wire.textField 2 message.startingToken
  slot? message
    | 1 => some (.int32 "max_entries" fun maxEntries => { message with maxEntries })
    | 2 => some (.text "starting_token" fun startingToken => { message with startingToken })
    | _ => none

instance : Message VolumeMessage where
  name? := some "Volume"
  initial := {}
  fields message :=
    Wire.int64Field 1 message.capacityBytes ++ Wire.textField 2 message.volumeId
      ++ Wire.tableFields 3 message.volumeContext
  slot? message
    | 1 => some (.int64 "capacity_bytes" fun capacityBytes => { message with capacityBytes })
    | 2 => some (.text "volume_id" fun volumeId => { message with volumeId })
    | 3 =>
        some (.entry "volume_context" message.volumeContext fun volumeContext =>
          { message with volumeContext })
    | _ => none

instance : Message VolumeStatus where
  name? := some "VolumeStatus"
  initial := {}
  fields message := Wire.textFields 1 message.publishedNodeIds
  slot? message
    | 1 =>
        some (.text "published_node_ids" fun node =>
          { message with publishedNodeIds := message.publishedNodeIds ++ [node] })
    | _ => none

instance : Message ListEntry where
  name? := some "Entry"
  initial := {}
  fields message := Wire.optionalPart 1 message.volume ++ Wire.optionalPart 2 message.status
  slot? message
    | 1 => some (.optionalPart "volume" message.volume fun volume => { message with volume })
    | 2 => some (.optionalPart "status" message.status fun status => { message with status })
    | _ => none

instance : Message ListResponse where
  name? := some "ListVolumesResponse"
  initial := {}
  fields message :=
    message.entries.map (Wire.partField 1) ++ Wire.textField 2 message.nextToken
  slot? message
    | 1 => some (.parts "entries" message.entries fun entries => { message with entries })
    | 2 => some (.text "next_token" fun nextToken => { message with nextToken })
    | _ => none

end VolumeAttacher.Csi
