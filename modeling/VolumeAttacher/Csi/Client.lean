import VolumeAttacher.Csi.Error
import VolumeAttacher.Csi.LogLine
import VolumeAttacher.Time.Duration
import VolumeAttacher.Wire.Fault

/-!
# The client of a driver

A call sends one request and ends with the response, with the status that the driver answers
instead, or with a status of its own when no answer comes in time or the driver cannot be reached.
A call that may take no time at all ends before its request is sent. The request and what the call
ends with are logged.
-/

namespace VolumeAttacher.Csi

/-- The methods of a driver. -/
inductive Method where
  | pluginInfo
  | pluginCapabilities
  | probe
  | controllerCapabilities
  | publish
  | unpublish
  | list
deriving DecidableEq, Repr

def Method.path : Method → String
  | pluginInfo => "/csi.v1.Identity/GetPluginInfo"
  | pluginCapabilities => "/csi.v1.Identity/GetPluginCapabilities"
  | probe => "/csi.v1.Identity/Probe"
  | controllerCapabilities => "/csi.v1.Controller/ControllerGetCapabilities"
  | publish => "/csi.v1.Controller/ControllerPublishVolume"
  | unpublish => "/csi.v1.Controller/ControllerUnpublishVolume"
  | list => "/csi.v1.Controller/ListVolumes"

/-- What becomes of a request. -/
inductive Reply (α : Type) where
  | response (message : α)
  /-- The driver answers with bytes that are no response. -/
  | malformed (error : Wire.DecodeError)
  | status (code : Code) (message : String)
  | silence
  /-- The request does not reach the driver. -/
  | unreachable (message : String)

def Reply.isReached {α : Type} : Reply α → Bool
  | .unreachable _ => false
  | _ => true

/-- What is logged of a call. -/
inductive CallEvent where
  | request (line : String)
  | response (line : String)
  | failure (code : Code) (message : String)
deriving DecidableEq, Repr

/-- A client. -/
structure Client where
  timeout : Nat := Duration.ofSeconds 15
  /-- How many characters of a message are logged, if there is a limit. -/
  logLimit : Option Nat := none
deriving DecidableEq, Repr

/-- How a call went. -/
structure CallOutcome (α : Type) where
  isSent : Bool
  result : Except Error α
  events : List CallEvent
  duration : Nat

namespace Client

/-- The response that a reply brings, or the status that the call ends with. An answer that is
neither is an internal error. -/
def received {α : Type} (client : Client) (method : Method) : Reply α → Except (Code × String) α
  | .response message => .ok message
  | .malformed error => .error (.internal, error.text)
  | .status .ok _ => .error (.internal, "Missing response message.")
  | .status code message => .error (code, message)
  | .silence =>
      .error (.deadlineExceeded,
        s!"{method.path} did not complete within {Duration.text client.timeout}")
  | .unreachable message => .error (.unavailable, message)

def isPatient (client : Client) : Bool :=
  client.timeout ≠ 0

/-- How long a call takes. Only a call without an answer takes time. -/
def waiting {α : Type} (client : Client) : Reply α → Nat
  | .silence => Duration.roundUp client.timeout
  | _ => 0

def lastEvent {α : Type} [Loggable α] (client : Client) : Except (Code × String) α → CallEvent
  | .ok message => .response (logLine client.logLimit message)
  | .error (code, message) => .failure code message

def call {α β : Type} [Loggable α] [Loggable β] (client : Client) (method : Method) (request : α)
    (reply : Reply β) : CallOutcome β :=
  let reply := if client.isPatient then reply else .silence
  let received := client.received method reply
  { isSent := client.isPatient && reply.isReached
    result := received.mapError fun status => .rpc status.1 status.2
    events := [.request (logLine client.logLimit request), client.lastEvent received]
    duration := client.waiting reply }

end Client

/-- Whether a driver that answers a probe is ready; one that does not say is. -/
def ProbeResponse.isReady (response : ProbeResponse) : Bool :=
  (response.ready.map BoolValue.value).getD true

end VolumeAttacher.Csi
