import VolumeAttacher.Failure
import VolumeAttacher.Json.Parser
import VolumeAttacher.Object.Node

/-!
# The driver's name of a node

A driver knows a node under a name of its own. It is registered in the list of drivers on the node,
and it may also stand in an annotation of the node, a JSON object from drivers to names.
-/

namespace VolumeAttacher

/-- The strings among members; none if one of them is no string. -/
def Json.stringMembers? (members : List (String × Json)) : Option (Table String) :=
  (members.mapM fun ((name, value) : String × Json) =>
    value.text?.map fun text => (name, text)).map Table.ofList

/-- The name that the annotation of a node gives it in a driver's terms. -/
def Node.idFor (node : Node) (driver : String) : Except NodeIdFault String :=
  match node.metadata.annotation? nodeIdAnnotation with
  | none => .error (.unannotated node.name)
  | some annotation =>
      match (Json.parseMembers? annotation).bind Json.stringMembers? with
      | none => .error (.unreadable node.name)
      | some ids =>
          match Table.find? ids driver with
          | none => .error (.noDriver node.name driver)
          | some id => .ok id

/-- The name that a driver has registered for a node: the first one that is not empty. -/
def CsiNode.idFor? (node : CsiNode) (driver : String) : Option String :=
  (node.drivers.find? fun registered =>
    registered.name = driver && !registered.nodeId.isEmpty).map NodeDriver.nodeId

end VolumeAttacher
