import VolumeAttacher.Csi.ErrorForm
import VolumeAttacher.Failure

/-!
# The JSON form of failures

A failure is written with its kind and its text; a failure of the driver in the form of its error,
and a refusal of the cluster with its status code. Texts are masked.
-/

namespace VolumeAttacher.Failure

def kind : Failure → String
  | notFound _ _ => "NotFound"
  | conflict _ => "Conflict"
  | cluster _ => "Kube"
  | csi error => error.kind
  | invalidVolume _ => "InvalidVolume"
  | nodeId _ => "NodeId"
  | serialization _ => "Serialization"
  | settings _ => "Config"
  | cacheSync _ => "CacheSync"
  | leaderElection _ => "LeaderElection"

def maskedMessage (failure : Failure) : Json :=
  .text (masked failure.message)

def toJson (failure : Failure) : Json :=
  .ofMembers <|
    match failure with
    | csi error => ("message", failure.maskedMessage) :: error.silentMembers
    | cluster code => [("error", .text failure.kind), ("code", .ofOption .ofNat code)]
    | _ => [("error", .text failure.kind), ("message", failure.maskedMessage)]

def csiJson (error : Csi.Error) : Json :=
  (csi error).toJson

/-- The failure of a kind, or about an object of a kind, with a text. -/
def ofKind? (kind message : String) : Option Failure :=
  match kind with
  | "volumeattachment" => some (notFound .volumeAttachment message)
  | "persistentvolume" => some (notFound .persistentVolume message)
  | "Conflict" => some (conflict message)
  | "InvalidVolume" => some (invalidVolume (.described message))
  | "NodeId" => some (nodeId (.described message))
  | "Config" => some (settings (.described message))
  | "LeaderElection" => some (leaderElection message)
  | "CacheSync" => some (cacheSync .csiNode)
  | _ => none

def resultJson (result : Except Failure Unit) : Json :=
  .ofExcept toJson (fun _ => .text "ok") result

end VolumeAttacher.Failure
