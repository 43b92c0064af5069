import VolumeAttacher.FailureForm
import VolumeAttacher.Scenario.Report
import VolumeAttacher.Scenario.Steps
import VolumeAttacher.Scenario.World
import VolumeAttacher.Simulation.ControllerRun

/-!
# Scenarios of the controller

The controller runs in a simulated world that changes with each step, and after each step everything
acts until it has to wait.
-/

namespace VolumeAttacher.Scenario

open Simulation (ControllerRun CacheSync RunStage World Event WriteRecord)

def controllerOf (input : Json) : Option ControllerRun := do
  let config := input.part "config"
  let world ← worldOf? input
  let period (name : String) : Nat := Duration.ofMillis (config.natAt name)
  let run : ControllerRun :=
    { world
      controller := { driver := driverOf config, handler := handlerOf config true }
      workers := (config.natAt? "workers").getD 1
      periods := { resync := period "resync_ms", reconcile := period "reconcile_ms" }
      watching := config.boolAt "watch" }
  let caches : CacheSync :=
    match input.textAt "sync" with
    | "fail" => .failed .node
    | "never" => .never
    | _ => .filled
  return (run.awaitCaches caches).settle

def controllerAction (run : ControllerRun) (step : Json) : Option ControllerRun :=
  match changeWorld? run.world step with
  | some world => world.map fun world => { run with world }
  | none =>
      match step.textItem 0 with
      | "event" => (eventOf? run.world.store step).map fun event => run.tell [event]
      | "advance" => some (run.elapse (Duration.ofMillis (step.natItem 1)))
      | "resync" => some run.resync
      | "cancel" => some run.cancel
      | "close" => (queueOf? (step.textItem 1)).map run.closeStream
      | _ => none

/-- How a run has ended, if it has. -/
def endedJson : RunStage → Json
  | .ended result => Failure.resultJson result
  | _ => .null

def groupedWrites (writes : List WriteRecord) : Json :=
  let ofObject (object : String) : Json :=
    .array ((writes.filter fun write => writtenName write = object).map writeJson)
  .ofMembers (writes.map fun write => (writtenName write, ofObject (writtenName write)))

def controllerStep (run : ControllerRun) (step : Json) : Option (Json × ControllerRun) := do
  let after := (← controllerAction run step).settle
  let reconciles :=
    if run.watching then []
    else [("reconciles", Json.ofNatTable (after.metrics.growthSince run.metrics))]
  return (.ofMembers <|
    [("writes", groupedWrites (since run.world.writes after.world.writes)),
      ("rpcs", .array (sortedByText ((since run.world.calls after.world.calls).map callJson))),
      ("ended", endedJson after.stage)] ++ reconciles, after)

def ofController? (input : Json) : Option Json := do
  let (steps, run) ← performSteps controllerStep (← controllerOf input) (input.itemsAt "steps")
  return .ofMembers [("steps", .array steps), ("stored", storedJson run.world.store)]

end VolumeAttacher.Scenario
