import VolumeAttacher.Csi.CapabilityForm
import VolumeAttacher.Csi.Client
import VolumeAttacher.Csi.MessageForm
import VolumeAttacher.FailureForm
import VolumeAttacher.Scenario.Steps

/-!
# Scenarios of a client

A client calls a driver whose replies are given with the calls. While the driver cannot be reached,
the messages of errors are left out.
-/

namespace VolumeAttacher.Scenario

open Csi.MessageForm (ofJson toJson)

def replyOf {α : Type} [Wire.Message α] [Csi.MessageForm α] (reachable : Bool) (json : Json) :
    Csi.Reply α :=
  if !reachable then .unreachable ""
  else
    match json.member? "status", json.boolAt "hang", json.textAt? "hex" with
    | some status, _, _ =>
        .status (Csi.Code.ofNumber (status.int32Item 0).toInt) (status.textItem 1)
    | none, true, _ => .silence
    | none, false, some hex =>
        match Wire.decode ((Text.unhex? hex).getD []) with
        | .ok message => .response message
        | .error error => .malformed error
    | none, false, none => .response (ofJson (json.part "message"))

def callEventJson (reachable : Bool) : Csi.CallEvent → Json
  | .request line => .ofMembers [("message", .text "GRPC call"), ("request", .text line)]
  | .response line => .ofMembers [("message", .text "GRPC response"), ("response", .text line)]
  | .failure code message => .ofMembers <|
    [("message", .text "GRPC error"), ("code", .text code.name)]
      ++ if reachable then [("error", .text message)] else []

/-- Makes the call of a step and reports it, given how its response is shown. -/
def clientCall (α β : Type) [Csi.Loggable α] [Csi.MessageForm α] [Csi.Loggable β]
    [Wire.Message β] [Csi.MessageForm β] (client : Csi.Client) (reachable : Bool) (step : Json)
    (method : Csi.Method) (value : β → Json) : Json :=
  let request : α := ofJson (step.part "request")
  let outcome := client.call method request (replyOf reachable (step.part "reply") : Csi.Reply β)
  let sent := .ofMembers [("path", .text method.path), ("request", toJson request)]
  let errorJson := if reachable then Failure.csiJson else Csi.Error.toSilentJson
  .ofMembers
    [("result", .ofExcept errorJson value outcome.result),
      ("sent", .array (if outcome.isSent then [sent] else [])),
      ("elapsed_ms", .ofNat (Duration.wholeMillis outcome.duration)),
      ("logs", .array (outcome.events.map (callEventJson reachable)))]

/-- Takes a step; the answer also tells whether the driver can be reached from then on. -/
def clientStep (client : Csi.Client) (reachable : Bool) (step : Json) :
    Option (Option Json × Bool) :=
  let answered (answer : Json) : Option (Option Json × Bool) := some (some answer, reachable)
  match step.textAt "call" with
  | "down" => some (none, false)
  | "up" => some (none, true)
  | "plugin_info" => answered <|
    clientCall Csi.PluginInfoRequest Csi.PluginInfoResponse client reachable step .pluginInfo
      fun response => .ofMembers
        [("name", .text response.name), ("vendor_version", .text response.vendorVersion)]
  | "probe" => answered <|
    clientCall Csi.ProbeRequest Csi.ProbeResponse client reachable step .probe
      fun response => .bool response.isReady
  | "plugin_capabilities" => answered <|
    clientCall Csi.PluginCapabilitiesRequest Csi.PluginCapabilitiesResponse client reachable step
      .pluginCapabilities
      fun response => .ofTexts ((Csi.PluginFeature.ofResponse response).map Csi.PluginFeature.name)
  | "controller_capabilities" => answered <|
    clientCall Csi.ControllerCapabilitiesRequest Csi.ControllerCapabilitiesResponse client reachable
      step .controllerCapabilities
      fun response => (Csi.ControllerFeatures.ofResponse response).toJson
  | "publish" => answered <|
    clientCall Csi.PublishRequest Csi.PublishResponse client reachable step .publish toJson
  | "unpublish" => answered <|
    clientCall Csi.UnpublishRequest Csi.UnpublishResponse client reachable step .unpublish toJson
  | "list" => answered <|
    clientCall Csi.ListRequest Csi.ListResponse client reachable step .list toJson
  | _ => none

def ofClient? (input : Json) : Option Json := do
  let client : Csi.Client :=
    { timeout := Duration.ofMillis ((input.natAt? "timeout_ms").getD 15000)
      logLimit := Csi.logLimit? ((input.intAt? "max_log").getD (-1)) }
  let perform (reachable : Bool) (step : Json) : Option (Json × Bool) :=
    (clientStep client reachable step).map fun (answer, reachable) =>
      (answer.getD .null, reachable)
  let (answers, _) ← performSteps perform true (input.itemsAt "steps")
  return .array (answers.filter (· ≠ .null))

end VolumeAttacher.Scenario
