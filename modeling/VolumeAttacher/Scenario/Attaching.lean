import VolumeAttacher.FailureForm
import VolumeAttacher.Object.Publishing
import VolumeAttacher.Scenario.Report
import VolumeAttacher.Scenario.Steps
import VolumeAttacher.Scenario.World
import VolumeAttacher.Simulation.Script

/-!
# Scenarios of operations on a driver

Volumes are attached, detached and listed on a scripted driver.
-/

namespace VolumeAttacher.Scenario

open Simulation (Script ScriptedDriver)

def publishedJson (published : Csi.PublishedVolumes) : Json :=
  .ofMembers (published.map fun entry => (entry.1, .ofTexts entry.2))

/-- The operation that attaches a volume, or why the volume cannot be published. -/
def attachRequestOf (json : Json) : Option (Except VolumeFault Csi.AttachRequest) := do
  let volume ← PersistentVolume.ofJson? (json.part "pv")
  return (volume.capability "").map fun capability =>
    { volumeId := json.textAt "volume_id"
      nodeId := json.textAt "node_id"
      readOnly := json.boolAt "read_only"
      capability
      volumeContext := json.textTableAt "volume_context"
      secrets := json.textTableAt "secrets" }

def driverAction (driver : ScriptedDriver) (maxEntries : Int32) (step : Json) :
    Option (Except VolumeFault (Json × ScriptedDriver)) := do
  let input := step.item 1
  match step.textItem 0 with
  | "attach" =>
      return (← attachRequestOf input).map fun request =>
        let (result, driver) := driver.perform .attach (Csi.attach request)
        (.ofExcept Failure.csiJson .ofTextTable result, driver)
  | "detach" =>
      let (result, driver) := driver.perform .detach
        (Csi.detach (input.textAt "volume_id") (input.textAt "node_id")
          (input.textTableAt "secrets"))
      return .ok (.ofExcept Failure.csiJson (fun _ => .null) result, driver)
  | "list" =>
      let (result, driver) := driver.perform .list (Csi.listVolumes maxEntries 0x100000000)
      return .ok (.ofExcept Failure.csiJson publishedJson result, driver)
  | _ => none

/-- Takes steps one after the other and collects what came of each. -/
def driverSteps (maxEntries : Int32) :
    ScriptedDriver → List Json → Option (Except VolumeFault (List Json))
  | _, [] => some (.ok [])
  | driver, step :: steps => do
    match ← driverAction driver maxEntries step with
    | .error fault => return .error fault
    | .ok (result, after) =>
        let answer := .ofMembers
          [("result", result),
            ("rpcs", .array ((since driver.calls after.calls).map callJson)),
            ("metrics", .ofNatTable (after.metrics.growthSince driver.metrics))]
        return (← driverSteps maxEntries after steps).map (answer :: ·)

def ofAttaching? (input : Json) : Option Json := do
  let driver : ScriptedDriver := { script := scriptOf (input.part "script") }
  let answers ← driverSteps (Int32.ofNat (input.natAt "max_entries")) driver (input.itemsAt "steps")
  return .ofExcept (fun fault => (Failure.invalidVolume fault).toJson) .array answers

end VolumeAttacher.Scenario
