import VolumeAttacher.FailureForm
import VolumeAttacher.Scenario.Report
import VolumeAttacher.Scenario.Steps
import VolumeAttacher.Scenario.World
import VolumeAttacher.Simulation.Session

/-!
# Scenarios of a handler

One handler works in a simulated world on the objects that the steps name.
-/

namespace VolumeAttacher.Scenario

open Simulation (Session World WriteRecord)

/-- A session with the names that have been worked on. -/
structure SessionState where
  session : Session
  names : List String

def syncStep {α : Type} (state : SessionState) (item : Json) (read : Json → Option α)
    (name : α → String) (stored : String → Option α)
    (sync : α → Except Failure Unit × Session) : Option (Json × SessionState) := do
  let (name, object) ←
    match item.text? with
    | some name => some (name, stored name)
    | none => (read item).map fun object => (name object, some object)
  let state := { state with names := state.names ++ [name] }
  match object with
  | none => return (.text "missing", state)
  | some object =>
      let (result, session) := sync object
      return (Failure.resultJson result, { state with session })

def sessionAction (state : SessionState) (step : Json) : Option (Json × SessionState) :=
  let session := state.session
  let store := session.world.store
  match changeWorld? session.world step with
  | some world => world.map fun world =>
      (.text "ok", { state with session := { session with world } })
  | none =>
      match step.textItem 0 with
      | "advance" =>
          some (.text "ok", { state with
            session := session.elapse (Duration.ofMillis (step.natItem 1)) })
      | "sync_va" =>
          syncStep state (step.item 1) VolumeAttachment.ofJson? VolumeAttachment.name
            store.attachments.find? session.syncAttachment
      | "sync_pv" =>
          syncStep state (step.item 1) PersistentVolume.ofJson? PersistentVolume.name
            store.volumes.find? session.syncVolume
      | "reconcile" =>
          let (result, session) := session.reconcileAll
          some (Failure.resultJson result, { state with session })
      | "init" => some (.text "ok", { state with session := session.giveQueues })
      | "drain" =>
          let (attachments, session) := session.drain .attachments
          let (volumes, session) := session.drain .volumes
          some (.ofMembers [("va", .ofTexts attachments), ("pv", .ofTexts volumes)],
            { state with session })
      | _ => none

/-- The failures of keys, those without failures left out. -/
def requeuesJson (queue : WorkQueue) (names : List String) : Json :=
  .ofNatTable ((names.map fun name => (name, queue.failures name)).filter fun entry => entry.2 ≠ 0)

def sessionStep (state : SessionState) (step : Json) : Option (Json × SessionState) := do
  let (result, after) ← sessionAction state step
  let before := state.session.world
  let world := after.session.world
  let queues := [world.attachmentQueue, world.volumeQueue]
  return (.ofMembers
    [("result", result),
      ("writes", .array ((since before.writes world.writes).map writeJson)),
      ("rpcs", .array ((since before.calls world.calls).map callJson)),
      ("len", .array (queues.map fun queue => .ofNat queue.size)),
      ("requeues", .array (queues.map fun queue => requeuesJson queue after.names))], after)

def ofHandler? (input : Json) : Option Json := do
  let config := input.part "config"
  let ready := ((config.member? "init").bind Json.bool?).getD true
  let world ← worldOf? input
  let session : Session := { world, handler := handlerOf config ready }
  let (steps, state) ← performSteps sessionStep ⟨session, []⟩ (input.itemsAt "steps")
  return .ofMembers
    [("steps", .array steps), ("stored", storedJson state.session.world.store)]

end VolumeAttacher.Scenario
