import VolumeAttacher.Object.Metadata
import VolumeAttacher.Object.NodeParts

/-!
# Nodes, the drivers on them, and secrets

The other objects that attaching needs: a node, whose annotations may name it in the drivers' terms;
the object that lists the drivers registered on a node; and secrets.
-/

namespace VolumeAttacher

/-- A node of the cluster. -/
structure Node where
  metadata : Metadata
  spec : Option Json := none
  status : Option Json := none
deriving DecidableEq

/-- A driver registered on a node. -/
structure NodeDriver where
  name : String
  nodeId : String
  topologyKeys : Option (List String)
  allocatable : Option Json := none
deriving DecidableEq

/-- The drivers registered on the node of the same name. -/
structure CsiNode where
  metadata : Metadata
  drivers : List NodeDriver
deriving DecidableEq

/-- A secret. -/
structure Secret where
  metadata : Metadata
  data : Option (Table (List UInt8))
  /-- Whether the secret may not be changed. -/
  immutable : Option Bool := none
  stringData : Option (Table String) := none
  kind : Option String := none
deriving DecidableEq

namespace Node

def ofJson? (value : Json) : Option Node := do
  let members ← Format.resource? "v1" "Node" value
  return {
    metadata := ← Format.fieldD? members "metadata" Metadata.ofJson? {}
    spec := ← Format.field? members "spec" NodeParts.specification.read?
    status := ← Format.field? members "status" NodeParts.status.read? }

def toJson (node : Node) : Json :=
  Format.written [
    ("apiVersion", some (.text "v1")),
    ("kind", some (.text "Node")),
    ("metadata", some node.metadata.toJson),
    ("spec", node.spec),
    ("status", node.status)]

def name (node : Node) : String :=
  node.metadata.displayName

end Node

namespace NodeDriver

def resources : Shape :=
  .record [] [("count", .int32)]

def ofJson? (value : Json) : Option NodeDriver := do
  let members ← value.members?
  return {
    name := ← Format.fieldD? members "name" Json.text? ""
    nodeId := ← Format.fieldD? members "nodeID" Json.text? ""
    topologyKeys := ← Format.field? members "topologyKeys" (Format.list? Json.text?)
    allocatable := ← Format.field? members "allocatable" resources.read? }

def toJson (driver : NodeDriver) : Json :=
  Format.written [
    ("allocatable", driver.allocatable),
    ("name", some (.text driver.name)),
    ("nodeID", some (.text driver.nodeId)),
    ("topologyKeys", driver.topologyKeys.map Format.ofStrings)]

end NodeDriver

namespace CsiNode

def specOfJson? (value : Json) : Option (List NodeDriver) := do
  let members ← value.members?
  Format.fieldD? members "drivers" (Format.list? NodeDriver.ofJson?) []

def ofJson? (value : Json) : Option CsiNode := do
  let members ← Format.resource? "storage.k8s.io/v1" "CSINode" value
  return {
    metadata := ← Format.fieldD? members "metadata" Metadata.ofJson? {}
    drivers := ← Format.fieldD? members "spec" specOfJson? [] }

def toJson (node : CsiNode) : Json :=
  Format.written [
    ("apiVersion", some (.text "storage.k8s.io/v1")),
    ("kind", some (.text "CSINode")),
    ("metadata", some node.metadata.toJson),
    ("spec", some (Format.written
      [("drivers", some (.array (node.drivers.map NodeDriver.toJson)))]))]

def name (node : CsiNode) : String :=
  node.metadata.displayName

end CsiNode

namespace Secret

def ofJson? (value : Json) : Option Secret := do
  let members ← Format.resource? "v1" "Secret" value
  return {
    metadata := ← Format.fieldD? members "metadata" Metadata.ofJson? {}
    data := ← Format.field? members "data" (Format.table? Format.bytes?)
    immutable := ← Format.field? members "immutable" Json.bool?
    stringData := ← Format.field? members "stringData" (Format.table? Json.text?)
    kind := ← Format.field? members "type" Json.text? }

/-- The data of the secret as text, with the replacement character for what is no text. -/
def texts (secret : Secret) : Table String :=
  Table.mapValues Text.lossyUtf8 (secret.data.getD [])

end Secret

end VolumeAttacher
