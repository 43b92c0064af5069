import VolumeAttacher.Csi.Capability
import VolumeAttacher.Csi.Error
import VolumeAttacher.Program

/-!
# Attaching volumes through a driver

The calls to a driver's controller, and the three operations built from them: attach a volume to a
node, detach it, and list where volumes are published. A failed attach that is final has published
nothing. A failed detach that is final means that the volume is not published on the node.
-/

namespace VolumeAttacher.Csi

/-- A call to the controller of a driver. -/
inductive Call where
  | publish (request : PublishRequest)
  | unpublish (request : UnpublishRequest)
  | list (request : ListRequest)
deriving DecidableEq

def Call.Response : Call → Type
  | publish _ => PublishResponse
  | unpublish _ => UnpublishResponse
  | list _ => ListResponse

def Call.Answer (call : Call) : Type :=
  Except Error call.Response

abbrev Calls (α : Type) : Type :=
  ExceptT Error (Program Call Call.Answer) α

namespace Calls

def make (call : Call) : Calls call.Response :=
  ExceptT.mk (Program.request call)

def publish (request : PublishRequest) : Calls PublishResponse :=
  make (.publish request)

def unpublish (request : UnpublishRequest) : Calls UnpublishResponse :=
  make (.unpublish request)

def list (request : ListRequest) : Calls ListResponse :=
  make (.list request)

end Calls

/-- What attaching a volume needs. -/
structure AttachRequest where
  volumeId : String
  nodeId : String
  /-- Whether the volume is published read-only. -/
  readOnly : Bool
  capability : VolumeCapability
  volumeContext : Table String
  secrets : Table String
deriving DecidableEq

/-- Attaches a volume and returns what the driver has for the node. Without the names of the volume
and the node the driver is not asked. -/
def attach (request : AttachRequest) : Calls (Table String) := do
  if request.volumeId.isEmpty || request.nodeId.isEmpty then
    throw (.invalidArgument "volume ID and node ID are required for attach")
  let response ← Calls.publish {
    volumeId := request.volumeId
    nodeId := request.nodeId
    volumeCapability := some request.capability.toMessage
    readonly := request.readOnly
    secrets := request.secrets
    volumeContext := request.volumeContext }
  return response.publishContext

def detach (volumeId nodeId : String) (secrets : Table String) : Calls Unit := do
  let _ ← Calls.unpublish { volumeId, nodeId, secrets }

/-- The nodes that volumes are published on, by the driver's names. -/
abbrev PublishedVolumes : Type := Table (List String)

/-- Adds the entries of a page. An entry without a volume says nothing, one without a status that
the volume is on no node, and a later entry for a volume replaces an earlier one. -/
def PublishedVolumes.addPage (published : PublishedVolumes) (entries : List ListEntry) :
    PublishedVolumes :=
  entries.foldl (fun published entry =>
    match entry.volume with
    | none => published
    | some volume =>
        Table.insert published volume.volumeId ((entry.status.map (·.publishedNodeIds)).getD []))
    published

/-- Lists the pages from a token on, adding them to what is known, until a page names no next one.
A listing that is longer than the limit of pages is given up. -/
def listPages (maxEntries : Int32) : Nat → String → PublishedVolumes → Calls PublishedVolumes
  | 0, _, _ => throw (.internal "the list of volumes does not end")
  | pages + 1, token, published => do
    let response ← Calls.list { maxEntries, startingToken := token }
    let published := published.addPage response.entries
    if response.nextToken.isEmpty then return published
    else listPages maxEntries pages response.nextToken published

def listVolumes (maxEntries : Int32) (pageLimit : Nat) : Calls PublishedVolumes :=
  listPages maxEntries pageLimit "" []

end VolumeAttacher.Csi
