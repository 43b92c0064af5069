import VolumeAttacher.Csi.Message
import VolumeAttacher.Text.Quoted

/-!
# Log lines of calls

Every request and response can be shown in a log. `Loggable.text` is the text of a message with all
its fields, `Loggable.masked` the message with its secrets struck out, and `logLine` joins the two
and cuts the text to a limit of characters, saying how many are missing.
-/

namespace VolumeAttacher.Csi

/-- A message that can be shown in a log. -/
class Loggable (α : Type) where
  masked : α → α := id
  text : α → String

def struckOut : String := "***stripped***"

def strikeOut (secrets : Table String) : Table String :=
  Table.mapValues (fun _ => struckOut) secrets

/-- The limit set by an option; a negative option sets none. -/
def logLimit? (option : Int) : Option Nat :=
  if option < 0 then none else some option.toNat

/-- A text cut to a number of characters, with the number of the missing ones. -/
def truncated (limit : Nat) (text : String) : String :=
  if text.length ≤ limit then text
  else
    let missing := text.length - limit
    String.ofList (text.toList.take limit) ++ s!"[...{missing} characters truncated]"

/-- The line that shows a message, cut to the limit if there is one. -/
def logLine {α : Type} [Loggable α] (limit : Option Nat) (message : α) : String :=
  let text := Loggable.text (Loggable.masked message)
  match limit with
  | none => text
  | some limit => truncated limit text

namespace LogText

def bool (value : Bool) : String :=
  if value then "true" else "false"

def named (names : List String) (n : Int32) : String :=
  let value := n.toInt
  let plain := toString value
  if 0 ≤ value then names[value.toNat]?.getD plain else plain

def serviceNames : List String :=
  ["Unknown", "ControllerService", "VolumeAccessibilityConstraints"]

def accessModeNames : List String :=
  ["Unknown", "SingleNodeWriter", "SingleNodeReaderOnly", "MultiNodeReaderOnly",
    "MultiNodeSingleWriter", "MultiNodeMultiWriter"]

def controllerRpcNames : List String :=
  ["Unknown", "CreateDeleteVolume", "PublishUnpublishVolume", "ListVolumes", "GetCapacity",
    "CreateDeleteSnapshot", "ListSnapshots", "CloneVolume", "PublishReadonly", "ExpandVolume",
    "ListVolumesPublishedNodes", "VolumeCondition", "GetVolume"]

def pluginCapability (capability : PluginCapability) : String :=
  let kind := capability.kind.map fun
    | .service service =>
        let number := named serviceNames service.kind
        "Service(" ++ Text.recordText "Service" [("r#type", number)] ++ ")"
    | .volumeExpansion expansion =>
        let number := toString expansion.kind.toInt
        "VolumeExpansion(" ++ Text.recordText "VolumeExpansion" [("r#type", number)] ++ ")"
  Text.recordText "PluginCapability" [("r#type", Text.optionText kind)]

def controllerCapability (capability : ControllerServiceCapability) : String :=
  let rpc := capability.rpc.map fun rpc =>
    "Rpc(" ++ Text.recordText "Rpc" [("r#type", named controllerRpcNames rpc.kind)] ++ ")"
  Text.recordText "ControllerServiceCapability" [("r#type", Text.optionText rpc)]

def accessType : AccessTypeMessage → String
  | .block => "Block(" ++ Text.recordText "BlockVolume" [] ++ ")"
  | .mount mount =>
      "Mount(" ++ Text.recordText "MountVolume"
        [("fs_type", Text.quoted mount.fsType),
          ("mount_flags", Text.quotedList mount.mountFlags)] ++ ")"

def accessMode (accessMode : AccessModeMessage) : String :=
  Text.recordText "AccessMode" [("mode", named accessModeNames accessMode.mode)]

def volumeCapability (capability : VolumeCapabilityMessage) : String :=
  Text.recordText "VolumeCapability"
    [("access_mode", Text.optionText (capability.accessMode.map accessMode)),
      ("access_type", Text.optionText (capability.accessType.map accessType))]

def volume (volume : VolumeMessage) : String :=
  Text.recordText "Volume"
    [("capacity_bytes", toString volume.capacityBytes.toInt),
      ("volume_id", Text.quoted volume.volumeId),
      ("volume_context", Text.quotedMap volume.volumeContext)]

def volumeStatus (status : VolumeStatus) : String :=
  Text.recordText "VolumeStatus" [("published_node_ids", Text.quotedList status.publishedNodeIds)]

def listEntry (entry : ListEntry) : String :=
  Text.recordText "Entry"
    [("volume", Text.optionText (entry.volume.map volume)),
      ("status", Text.optionText (entry.status.map volumeStatus))]

end LogText

instance : Loggable PluginInfoRequest where
  text _ := Text.recordText "GetPluginInfoRequest" []

instance : Loggable PluginInfoResponse where
  text message := Text.recordText "GetPluginInfoResponse"
    [("name", Text.quoted message.name),
      ("vendor_version", Text.quoted message.vendorVersion),
      ("manifest", Text.quotedMap message.manifest)]

instance : Loggable PluginCapabilitiesRequest where
  text _ := Text.recordText "GetPluginCapabilitiesRequest" []

instance : Loggable PluginCapabilitiesResponse where
  text message := Text.recordText "GetPluginCapabilitiesResponse"
    [("capabilities", Text.bracketed (message.capabilities.map LogText.pluginCapability))]

instance : Loggable ProbeRequest where
  text _ := Text.recordText "ProbeRequest" []

instance : Loggable ProbeResponse where
  text message := Text.recordText "ProbeResponse"
    [("ready", Text.optionText (message.ready.map fun ready => LogText.bool ready.value))]

instance : Loggable ControllerCapabilitiesRequest where
  text _ := Text.recordText "ControllerGetCapabilitiesRequest" []

instance : Loggable ControllerCapabilitiesResponse where
  text message := Text.recordText "ControllerGetCapabilitiesResponse"
    [("capabilities", Text.bracketed (message.capabilities.map LogText.controllerCapability))]

instance : Loggable PublishRequest where
  masked message := { message with secrets := strikeOut message.secrets }
  text message := Text.recordText "ControllerPublishVolumeRequest"
    [("volume_id", Text.quoted message.volumeId),
      ("node_id", Text.quoted message.nodeId),
      ("volume_capability",
        Text.optionText (message.volumeCapability.map LogText.volumeCapability)),
      ("readonly", LogText.bool message.readonly),
      ("secrets", Text.quotedMap message.secrets),
      ("volume_context", Text.quotedMap message.volumeContext)]

instance : Loggable PublishResponse where
  text message := Text.recordText "ControllerPublishVolumeResponse"
    [("publish_context", Text.quotedMap message.publishContext)]

instance : Loggable UnpublishRequest where
  masked message := { message with secrets := strikeOut message.secrets }
  text message := Text.recordText "ControllerUnpublishVolumeRequest"
    [("volume_id", Text.quoted message.volumeId),
      ("node_id", Text.quoted message.nodeId),
      ("secrets", Text.quotedMap message.secrets)]

instance : Loggable UnpublishResponse where
  text _ := Text.recordText "ControllerUnpublishVolumeResponse" []

instance : Loggable ListRequest where
  text message := Text.recordText "ListVolumesRequest"
    [("max_entries", toString message.maxEntries.toInt),
      ("starting_token", Text.quoted message.startingToken)]

instance : Loggable ListResponse where
  text message := Text.recordText "ListVolumesResponse"
    [("entries", Text.bracketed (message.entries.map LogText.listEntry)),
      ("next_token", Text.quoted message.nextToken)]

end VolumeAttacher.Csi
