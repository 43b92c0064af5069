import VolumeAttacher.Cluster.Api
import VolumeAttacher.FailureForm
import VolumeAttacher.Scenario.Steps
import VolumeAttacher.Simulation.Watching

/-!
# Scenarios of the watch of the cluster

The informers follow a simulated cluster, and single requests are made to it, with the replies
given.
-/

namespace VolumeAttacher.Scenario

open Simulation (Watching WatchedKind Notifications)

def versionJson (version : Option String) : Json :=
  .ofOption .text version

def changeJson {α : Type} [Versioned α] (change : Change α) : Json :=
  let named (object : α) : Json :=
    .array [.text (Versioned.metadata object).displayName,
      versionJson (Versioned.metadata object).resourceVersion]
  match change with
  | .added object => .ofMembers [("added", named object)]
  | .updated old new => .ofMembers [("updated", named new), ("old", named old)]
  | .deleted object => .ofMembers [("deleted", named object)]

/-- Changes, with the deletions at the end sorted by their texts. -/
def changesJson {α : Type} [Versioned α] (changes : List (Change α)) : Json :=
  let items := changes.map changeJson
  let isDeletion (item : Json) : Bool := (item.member? "deleted").isSome
  let last := (items.reverse.takeWhile isDeletion)
  .array (items.take (items.length - last.length) ++ sortedByText last)

def listsOf {α : Type} (read : Json → Option α) (input : Json) (kind : String) :
    Option (WatchedKind α) := do
  let served ← ((input.part "lists").itemsAt kind).mapM read
  return { served, hanging := (input.textsAt "hang").contains kind }

/-- What a step of one kind does: a listing, or a single change. -/
def watchStep {α : Type} [Versioned α] (read : Json → Option α) (kind : WatchedKind α)
    (step : Json) : Option (List (Change α) × WatchedKind α) := do
  if step.textItem 0 = "relist" then return kind.relist (← (step.item 2).items.mapM read)
  else
    let object ← read (step.item 3)
    match step.textItem 2 with
    | "ADDED" | "MODIFIED" => return kind.tell object (.applied object)
    | "DELETED" => return kind.tell object (.deleted object)
    | _ => none

def kindStep (watching : Watching) (step : Json) : Option (Notifications × Watching) :=
  match step.textItem 1 with
  | "va" => (watchStep VolumeAttachment.ofJson? watching.attachments step).map
    fun (changes, attachments) => ({ attachments := changes }, { watching with attachments })
  | "pv" => (watchStep PersistentVolume.ofJson? watching.volumes step).map
    fun (changes, volumes) => ({ volumes := changes }, { watching with volumes })
  | "node" => (watchStep Node.ofJson? watching.nodes step).map
    fun (_, nodes) => ({}, { watching with nodes })
  | "csinode" => (watchStep CsiNode.ofJson? watching.csiNodes step).map
    fun (_, csiNodes) => ({}, { watching with csiNodes })
  | _ => none

def cached (watching : Watching) (kind name : String) : Option Json :=
  let find {α : Type} [Versioned α] (kind : WatchedKind α) (encode : α → Json) : Option Json :=
    some (.ofOption encode (kind.find? name))
  match kind with
  | "va" => find watching.attachments VolumeAttachment.toJson
  | "pv" => find watching.volumes PersistentVolume.toJson
  | "node" => find watching.nodes Node.toJson
  | "csinode" => find watching.csiNodes CsiNode.toJson
  | _ => none

/-- The reply that a value describes, with the body that is usual. -/
def apiReplyOf (json absent : Json) : Api.Reply :=
  match json.natAt? "code" with
  | some code =>
      let usual := if code = 404 then Api.notFoundReason else ""
      .refused code ((json.textAt? "reason").getD usual)
  | none => .granted ((json.member? "body").getD absent)

def requestJson (request : Api.Request) (target : UriTarget) : Json :=
  .ofMembers
    [("method", .text request.method), ("path", .text target.path),
      ("query", .ofTexts (target.parameters.mergeSort (· ≤ ·))),
      ("content_type", .ofOption .text request.contentType?),
      ("body", request.body?.getD .null)]

/-- Makes a request, if it can be made. -/
def makeRequest (request : Api.Request) (result : Json) : Json × List Json :=
  match request.target? with
  | some target => (result, [requestJson request target])
  | none => ((Failure.cluster none).toJson, [])

def patchStep {α : Type} (read : Json → Option α) (encode : α → Json)
    (request : α → α → Api.Request) (step : Json) : Option (Json × List Json) := do
  let old ← read (step.item 2)
  let new ← read (step.item 3)
  let request := request old new
  let reply := apiReplyOf (step.item 4) (encode new)
  return makeRequest request
    (.ofExcept Failure.toJson encode (Api.patched read request.name reply))

def requestStep (step : Json) : Option (Json × List Json) :=
  match step.textItem 0, step.textItem 1 with
  | "patch", "va" => patchStep VolumeAttachment.ofJson? VolumeAttachment.toJson
    (Api.patchAttachment .attachment) step
  | "patch", "va_status" => patchStep VolumeAttachment.ofJson? VolumeAttachment.toJson
    (Api.patchAttachment .status) step
  | "patch", "pv" => patchStep PersistentVolume.ofJson? PersistentVolume.toJson
    Api.patchVolume step
  | "secret", space =>
      some <| makeRequest (.secret space (step.textItem 2)) <|
        .ofExcept Failure.toJson (.ofOption fun secret => .ofTextTable secret.texts)
          (Api.fetched (apiReplyOf (step.item 3) .null))
  | _, _ => none

def clusterAnswer (result : Json) (requests : List Json) (told : Notifications)
    (watching : Watching) : Json :=
  let versions (table : Table (Option String)) : Json :=
    .ofMembers (Table.mapValues versionJson table)
  .ofMembers
    [("result", result), ("requests", .array requests),
      ("events", .array [changesJson told.attachments, changesJson told.volumes]),
      ("cache", .array
        [versions watching.attachments.versions, versions watching.volumes.versions])]

def clusterStep (watching : Watching) (step : Json) : Option (Json × Watching) :=
  match step.textItem 0 with
  | "watch" | "relist" => (kindStep watching step).map fun (told, watching) =>
      (clusterAnswer .null [] told watching, watching)
  | "sync" =>
      let result := (watching.sync?).elim (.text "pending") <|
        .ofExcept Failure.toJson fun _ => .text "synced"
      some (clusterAnswer result [] {} watching, watching)
  | "get" => (cached watching (step.textItem 1) (step.textItem 2)).map fun result =>
      (clusterAnswer result [] {} watching, watching)
  | "cancel" => some (clusterAnswer .null [] {} watching, watching.stop)
  | _ => (requestStep step).map fun (result, requests) =>
      (clusterAnswer result requests {} watching, watching)

def ofWatch? (input : Json) : Option Json := do
  let watching : Watching :=
    { attachments := ← listsOf VolumeAttachment.ofJson? input "va"
      volumes := ← listsOf PersistentVolume.ofJson? input "pv"
      nodes := ← listsOf Node.ofJson? input "node"
      csiNodes := ← listsOf CsiNode.ofJson? input "csinode" }
  let (told, watching) := watching.start
  let (answers, _) ← performSteps clusterStep watching (input.itemsAt "steps")
  return .array (clusterAnswer .null [] told watching :: answers)

end VolumeAttacher.Scenario
