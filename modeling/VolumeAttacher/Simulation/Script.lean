import VolumeAttacher.Metrics

/-!
# Scripted drivers

A driver that gives prepared answers in order, and the operations on it, whose calls are kept and
whose outcomes are counted.
-/

namespace VolumeAttacher.Simulation

/-- The answers that a driver has yet to give. A call without a prepared answer gets the empty
response. -/
structure Script where
  publish : List (Except Csi.Error Csi.PublishResponse) := []
  unpublish : List (Except Csi.Error Csi.UnpublishResponse) := []
  list : List (Except Csi.Error Csi.ListResponse) := []

namespace Script

/-- The answers of one script after those of another. -/
def append (script more : Script) : Script where
  publish := script.publish ++ more.publish
  unpublish := script.unpublish ++ more.unpublish
  list := script.list ++ more.list

def next {α : Type} (empty : α) : List (Except Csi.Error α) →
    Except Csi.Error α × List (Except Csi.Error α)
  | [] => (.ok empty, [])
  | answer :: answers => (answer, answers)

def answer (script : Script) : (call : Csi.Call) → call.Answer × Script
  | .publish _ =>
      let (answer, publish) := next {} script.publish
      (answer, { script with publish })
  | .unpublish _ =>
      let (answer, unpublish) := next {} script.unpublish
      (answer, { script with unpublish })
  | .list _ =>
      let (answer, list) := next {} script.list
      (answer, { script with list })

end Script

/-- A scripted driver with what it has received and what has been counted. -/
structure ScriptedDriver where
  script : Script
  /-- The calls that it has received, the first one first. -/
  calls : List Csi.Call := []
  metrics : Metrics := {}

namespace ScriptedDriver

def answer (call : Csi.Call) (driver : ScriptedDriver) : call.Answer × ScriptedDriver :=
  let (answer, script) := driver.script.answer call
  (answer, { driver with script, calls := driver.calls ++ [call] })

def perform {α : Type} (driver : ScriptedDriver) (method : Csi.CountedMethod)
    (operation : Csi.Calls α) : Except Csi.Error α × ScriptedDriver :=
  let (outcome, driver) := Program.run answer operation.run driver
  (outcome, { driver with metrics := driver.metrics.increment (method.sample outcome) })

end ScriptedDriver

end VolumeAttacher.Simulation
