import VolumeAttacher.Csi.Connection
import VolumeAttacher.FailureForm
import VolumeAttacher.Scenario.Steps

/-!
# Scenarios of a connection

A driver is connected to. Either it is known only by its address and never answers, or it appears at
a socket file after some time, is lost again and again, and is probed after each loss.
-/

namespace VolumeAttacher.Scenario

/-- Probes the driver over a connection and reports the answer and the losses so far. -/
def probeJson (connection : Csi.Connection) : Json × Csi.Connection :=
  let (works, connection) := connection.restore
  let result := if works then .bool true else Csi.Error.toSilentJson (.rpc .unavailable "")
  (.array [result, .ofNat connection.dialler.losses], connection)

def connectionStep (connection : Csi.Connection) (step : Json) : Option (Json × Csi.Connection) :=
  match step.text? with
  | some "drop" => some (probeJson connection.drop)
  | some "gone" => some (probeJson connection.vanish)
  | _ => none

def ofConnection? (input : Json) : Option Json := do
  if input.boolAt "socket" then
    let appears := Duration.ofMillis (input.natAt "appear_after_ms")
    let (first, connection) := probeJson (.established (.unix ""))
    let (probes, _) ← performSteps connectionStep connection (input.itemsAt "then")
    return .ofMembers
      [("waited_ms", .ofNat (Duration.wholeMillis (Csi.Connection.timeOfSuccess appears))),
        ("probes", .array (first :: probes))]
  else
    let address := input.textAt "address"
    let errorJson := if address.contains ' ' then Csi.Error.toSilentJson else Failure.csiJson
    return .ofExcept errorJson (fun _ => .text "still connecting")
      (Csi.Connection.addressOf address)

end VolumeAttacher.Scenario
