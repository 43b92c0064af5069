import VolumeAttacher.Csi.ErrorForm
import VolumeAttacher.Csi.MessageForm
import VolumeAttacher.Reconcile.Controller
import VolumeAttacher.Simulation.World

/-!
# Scenarios

Reading from JSON what a simulated world is made of: the objects in its store, the answers of its
driver, the faults of writes and the configuration of the handler. The steps here change the
surroundings alone. A scenario that names an unknown kind or holds an unreadable object is not
understood.
-/

namespace VolumeAttacher.Scenario

open Simulation (Script World Event)

open Reconcile (Controller Handler)

def answersOf {α : Type} [Csi.MessageForm α] (json : Json) (name : String) :
    List (Except Csi.Error α) :=
  (json.itemsAt name).map fun answer =>
    match Csi.Error.ofJson? answer with
    | some error => .error error
    | none => .ok (Csi.MessageForm.ofJson answer)

def scriptOf (json : Json) : Script where
  publish := answersOf json "publish"
  unpublish := answersOf json "unpublish"
  list := answersOf json "list"

def putObject? (store : Store) (kind : String) (object : Json) : Option Store :=
  match kind with
  | "va" => (VolumeAttachment.ofJson? object).map store.putAttachment
  | "pv" => (PersistentVolume.ofJson? object).map store.putVolume
  | "node" => (Node.ofJson? object).map store.putNode
  | "csinode" => (CsiNode.ofJson? object).map store.putCsiNode
  | "secret" => (Secret.ofJson? object).map store.putSecret
  | _ => none

def splitPath (path : String) : String × String :=
  match path.splitOn "/" with
  | space :: rest => (space, String.intercalate "/" rest)
  | [] => ("", path)

def removeObject? (store : Store) (kind name : String) : Option Store :=
  match kind with
  | "va" => some { store with attachments := store.attachments.remove name }
  | "pv" => some { store with volumes := store.volumes.remove name }
  | "node" => some { store with nodes := Table.erase store.nodes name }
  | "csinode" => some { store with csiNodes := Table.erase store.csiNodes name }
  | "secret" =>
      let (space, name) := splitPath name
      some (store.removeSecret space name)
  | _ => none

def faultOf (json : Json) : Fault :=
  match json.text? with
  | some "conflict" => .conflict
  | some "forbidden" => .forbidden
  | _ => .none

def worldOf? (json : Json) : Option World := do
  let config := json.part "config"
  let policy : RetryPolicy :=
    ⟨Duration.ofMillis ((config.natAt? "retry_start_ms").getD 1000),
      Duration.ofMillis ((config.natAt? "retry_max_ms").getD 8000)⟩
  let store ← (json.itemsAt "objects").foldlM
    (fun store entry => putObject? store (entry.textAt "kind") (entry.part "object")) {}
  return { World.initial policy with store, script := scriptOf (json.part "script") }

/-- The world after a step that may not be understood. -/
def withStore? (world : World) (store : Option Store) : Option World :=
  store.map fun store => { world with store }

/-- Takes a step that changes the surroundings alone. The outer option tells whether it is one, the
inner one whether it is understood. -/
def changeWorld? (world : World) (step : Json) : Option (Option World) :=
  let store := world.store
  match step.textItem 0 with
  | "put" => some (withStore? world (putObject? store (step.textItem 1) (step.item 2)))
  | "remove" => some (withStore? world (removeObject? store (step.textItem 1) (step.textItem 2)))
  | "faults" =>
      some (withStore? world (some { store with faults := (step.item 1).items.map faultOf }))
  | "secret_fault" =>
      let secretsUnreadable := (step.item 1).bool?.getD false
      some (withStore? world (some { store with secretsUnreadable }))
  | "script" =>
      some (some { world with script := world.script.append (scriptOf (step.item 1)) })
  | _ => none

def driverOf (config : Json) : String :=
  (config.textAt? "driver").getD "csi.example.com"

def handlerOf (config : Json) (ready : Bool) : Handler :=
  if config.boolAt "trivial" then .trivial ready
  else .publishing {
    driver := driverOf config
    defaultFileSystem := config.textAt "default_fs_type"
    readonlyPublish := config.boolAt "readonly_publish"
    listPublished := config.boolAt "list_published"
    maxEntries := Int32.ofNat (config.natAt "max_entries")
    ready }

def objectOf? {α : Type} (stored : String → Option α) (read : Json → Option α) (json : Json) :
    Option α :=
  match json.text? with
  | some name => stored name
  | none => read json

def changeOf? {α : Type} (action : String) (old object : Option α) : Option (Change α) :=
  match action with
  | "added" => object.map .added
  | "updated" => old.bind fun old => object.map (.updated old)
  | "deleted" => object.map .deleted
  | _ => none

/-- The change that a step tells: the kind and the action, the object, and the object before. -/
def eventOf? (store : Store) (step : Json) : Option Event :=
  let action := step.textItem 2
  match step.textItem 1 with
  | "va" =>
      let object := objectOf? store.attachments.find? VolumeAttachment.ofJson? (step.item 3)
      let old := objectOf? store.attachments.find? VolumeAttachment.ofJson? (step.item 4)
      (changeOf? action old object).map .attachment
  | "pv" =>
      let object := objectOf? store.volumes.find? PersistentVolume.ofJson? (step.item 3)
      (changeOf? action object object).map .volume
  | _ => none

def queueOf? : String → Option Reconcile.QueueName
  | "va" => some .attachments
  | "pv" => some .volumes
  | _ => none

end VolumeAttacher.Scenario
