import VolumeAttacher.Csi.Encoding
import VolumeAttacher.Csi.LogLine
import VolumeAttacher.Json.Fields

/-!
# The JSON form of messages

Every message can be written as JSON and read from it. Reading is lenient: a field that is missing
or of another type has its default. A message type can also be chosen by the name that it has in the
interface of drivers.
-/

namespace VolumeAttacher.Csi

/-- A message that can be written as JSON. -/
class MessageForm (α : Type) where
  ofJson : Json → α
  toJson : α → Json

open MessageForm (ofJson toJson)

instance : MessageForm PluginInfoRequest where
  ofJson _ := {}
  toJson _ := .ofMembers []

instance : MessageForm PluginInfoResponse where
  ofJson json :=
    { name := json.textAt "name"
      vendorVersion := json.textAt "vendor_version"
      manifest := json.textTableAt "manifest" }
  toJson message := .ofMembers
    [("name", .text message.name), ("vendor_version", .text message.vendorVersion),
      ("manifest", .ofTextTable message.manifest)]

instance : MessageForm PluginCapabilitiesRequest where
  ofJson _ := {}
  toJson _ := .ofMembers []

instance : MessageForm PluginCapability where
  ofJson json :=
    { kind :=
        match json.member? "service", json.member? "volume_expansion" with
        | some _, _ => some (.service ⟨json.int32At "service"⟩)
        | none, some _ => some (.volumeExpansion ⟨json.int32At "volume_expansion"⟩)
        | none, none => none }
  toJson message := .ofMembers <|
    match message.kind with
    | some (.service service) => [("service", .ofInt32 service.kind)]
    | some (.volumeExpansion expansion) => [("volume_expansion", .ofInt32 expansion.kind)]
    | none => []

instance : MessageForm PluginCapabilitiesResponse where
  ofJson json := { capabilities := (json.itemsAt "capabilities").map ofJson }
  toJson message := .ofMembers [("capabilities", .array (message.capabilities.map toJson))]

instance : MessageForm ProbeRequest where
  ofJson _ := {}
  toJson _ := .ofMembers []

instance : MessageForm ProbeResponse where
  ofJson json := { ready := (json.boolAt? "ready").map BoolValue.mk }
  toJson message := .ofMembers
    [("ready", .ofOption (fun ready => .bool ready.value) message.ready)]

instance : MessageForm ControllerCapabilitiesRequest where
  ofJson _ := {}
  toJson _ := .ofMembers []

instance : MessageForm ControllerServiceCapability where
  ofJson json := { rpc := (json.member? "rpc").map fun _ => ⟨json.int32At "rpc"⟩ }
  toJson message := .ofMembers <|
    match message.rpc with
    | some rpc => [("rpc", .ofInt32 rpc.kind)]
    | none => []

instance : MessageForm ControllerCapabilitiesResponse where
  ofJson json := { capabilities := (json.itemsAt "capabilities").map ofJson }
  toJson message := .ofMembers [("capabilities", .array (message.capabilities.map toJson))]

instance : MessageForm VolumeCapabilityMessage where
  ofJson json :=
    { accessMode := (json.int32At? "access_mode").map fun mode => ⟨mode⟩
      accessType :=
        match json.member? "block", json.member? "mount" with
        | some _, _ => some .block
        | none, some mount =>
            some (.mount ⟨mount.textAt "fs_type", mount.textsAt "mount_flags"⟩)
        | none, none => none }
  toJson message := .ofMembers <|
    ("access_mode", .ofOption (fun mode => .ofInt32 mode.mode) message.accessMode) ::
      match message.accessType with
      | some .block => [("block", .ofMembers [])]
      | some (.mount mount) =>
          [("mount", .ofMembers
            [("fs_type", .text mount.fsType), ("mount_flags", .ofTexts mount.mountFlags)])]
      | none => []

instance : MessageForm PublishRequest where
  ofJson json :=
    { volumeId := json.textAt "volume_id"
      nodeId := json.textAt "node_id"
      volumeCapability := (json.member? "volume_capability").map ofJson
      readonly := json.boolAt "readonly"
      secrets := json.textTableAt "secrets"
      volumeContext := json.textTableAt "volume_context" }
  toJson message := .ofMembers
    [("volume_id", .text message.volumeId), ("node_id", .text message.nodeId),
      ("volume_capability", .ofOption toJson message.volumeCapability),
      ("readonly", .bool message.readonly), ("secrets", .ofTextTable message.secrets),
      ("volume_context", .ofTextTable message.volumeContext)]

instance : MessageForm PublishResponse where
  ofJson json := { publishContext := json.textTableAt "publish_context" }
  toJson message := .ofMembers [("publish_context", .ofTextTable message.publishContext)]

instance : MessageForm UnpublishRequest where
  ofJson json :=
    { volumeId := json.textAt "volume_id"
      nodeId := json.textAt "node_id"
      secrets := json.textTableAt "secrets" }
  toJson message := .ofMembers
    [("volume_id", .text message.volumeId), ("node_id", .text message.nodeId),
      ("secrets", .ofTextTable message.secrets)]

instance : MessageForm UnpublishResponse where
  ofJson _ := {}
  toJson _ := .ofMembers []

instance : MessageForm ListRequest where
  ofJson json :=
    { maxEntries := json.int32At "max_entries", startingToken := json.textAt "starting_token" }
  toJson message := .ofMembers
    [("max_entries", .ofInt32 message.maxEntries),
      ("starting_token", .text message.startingToken)]

instance : MessageForm VolumeMessage where
  ofJson json :=
    { capacityBytes := Int64.ofInt (json.intAt "capacity_bytes")
      volumeId := json.textAt "volume_id"
      volumeContext := json.textTableAt "volume_context" }
  toJson message := .ofMembers
    [("capacity_bytes", .ofInt message.capacityBytes.toInt),
      ("volume_id", .text message.volumeId), ("volume_context", .ofTextTable message.volumeContext)]

instance : MessageForm VolumeStatus where
  ofJson json := { publishedNodeIds := json.textsAt "published_node_ids" }
  toJson message := .ofMembers [("published_node_ids", .ofTexts message.publishedNodeIds)]

instance : MessageForm ListEntry where
  ofJson json :=
    { volume := (json.member? "volume").map ofJson
      status := (json.member? "status").map ofJson }
  toJson message := .ofMembers
    [("volume", .ofOption toJson message.volume), ("status", .ofOption toJson message.status)]

instance : MessageForm ListResponse where
  ofJson json :=
    { entries := (json.itemsAt "entries").map ofJson, nextToken := json.textAt "next_token" }
  toJson message := .ofMembers
    [("entries", .array (message.entries.map toJson)), ("next_token", .text message.nextToken)]

/-- What can be done with messages of one type. -/
structure MessageType where
  encode : Json → List UInt8
  decode? : List UInt8 → Option Json
  logLine : Option Nat → Json → String

def MessageType.of (α : Type) [Wire.Message α] [Loggable α] [MessageForm α] : MessageType where
  encode json := Wire.encode (ofJson json : α)
  decode? bytes := ((Wire.decode bytes : Except Wire.DecodeError α).toOption).map toJson
  logLine limit json := Csi.logLine limit (ofJson json : α)

def MessageType.ofName? : String → Option MessageType
  | "GetPluginInfoRequest" => some (.of PluginInfoRequest)
  | "GetPluginInfoResponse" => some (.of PluginInfoResponse)
  | "GetPluginCapabilitiesRequest" => some (.of PluginCapabilitiesRequest)
  | "GetPluginCapabilitiesResponse" => some (.of PluginCapabilitiesResponse)
  | "ProbeRequest" => some (.of ProbeRequest)
  | "ProbeResponse" => some (.of ProbeResponse)
  | "ControllerGetCapabilitiesRequest" => some (.of ControllerCapabilitiesRequest)
  | "ControllerGetCapabilitiesResponse" => some (.of ControllerCapabilitiesResponse)
  | "ControllerPublishVolumeRequest" => some (.of PublishRequest)
  | "ControllerPublishVolumeResponse" => some (.of PublishResponse)
  | "ControllerUnpublishVolumeRequest" => some (.of UnpublishRequest)
  | "ControllerUnpublishVolumeResponse" => some (.of UnpublishResponse)
  | "ListVolumesRequest" => some (.of ListRequest)
  | "ListVolumesResponse" => some (.of ListResponse)
  | _ => none

end VolumeAttacher.Csi
