import VolumeAttacher.Csi.MessageForm
import VolumeAttacher.FailureForm
import VolumeAttacher.Simulation.World

/-!
# Reports

The JSON form of what happened in a simulated world: the writes that were tried, the calls that the
driver received, and the objects that are stored. What others word is masked, and so is the time of
errors that were recorded just now.
-/

namespace VolumeAttacher.Scenario

open Simulation (WriteRecord)

open Csi.MessageForm (toJson)

/-- The first year of times that count as now. -/
def nowSince : String := "2025"

/-- A recorded error with its text masked and the present time as a mark. -/
def maskedRecord (json : Json) : Json :=
  .ofMembers <| json.members.map fun (name, value) =>
    match name, value with
    | "message", .text message => (name, .text (Failure.masked message))
    | "time", .text time => (name, .text (if nowSince ≤ time then "<now>" else time))
    | _, _ => (name, value)

def maskedStatus (json : Json) : Json :=
  .ofMembers <| json.members.map fun (name, value) =>
    if name = "attachError" ∨ name = "detachError" then (name, maskedRecord value)
    else (name, value)

def attachmentJson (attachment : VolumeAttachment) : Json :=
  .ofMembers <| attachment.toJson.members.map fun (name, value) =>
    if name = "status" then (name, maskedStatus value) else (name, value)

def refusalText : Refusal → String
  | .notFound => "not_found"
  | .conflict => "conflict"
  | .forbidden => "forbidden"
  | .stale => "stale"

/-- A write of some target, with the object as it is stored or the refusal. -/
def outcomeJson {α : Type} (target name : String) (object : α → Json) (outcome : Except Refusal α) :
    Json :=
  .ofMembers <| [("write", .text target), ("name", .text name)] ++
    match outcome with
    | .ok written => [("object", object written)]
    | .error refusal => [("failed", .text (refusalText refusal))]

def writeJson : WriteRecord → Json
  | .attachment name outcome => outcomeJson "va" name attachmentJson outcome
  | .status name outcome => outcomeJson "va_status" name attachmentJson outcome
  | .volume name outcome => outcomeJson "pv" name PersistentVolume.toJson outcome

def writtenName : WriteRecord → String
  | .attachment name _ | .status name _ => s!"va/{name}"
  | .volume name _ => s!"pv/{name}"

def callJson : Csi.Call → Json
  | .publish request => .ofMembers [("publish", toJson request)]
  | .unpublish request => .ofMembers [("unpublish", toJson request)]
  | .list request => .ofMembers [("list", toJson request)]

def storedJson (store : Store) : Json :=
  .ofMembers
    [("vas", .ofMembers (Table.mapValues attachmentJson store.attachments.objects)),
      ("pvs", .ofMembers (Table.mapValues PersistentVolume.toJson store.volumes.objects))]

end VolumeAttacher.Scenario
