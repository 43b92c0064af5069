import VolumeAttacher.Csi.Error
import VolumeAttacher.Time.Duration

/-!
# Failures of the attacher

Why work on an object, a write to the cluster or the set-up failed, as causes; the wording is in
`Failure.message`. What the client of the cluster's interface and the JSON reader would say in their
own words is not part of a cause: in messages a mark stands in its place, and `Failure.masked` puts
the same marks into messages from elsewhere.
-/

namespace VolumeAttacher

/-- The kinds of cluster objects that the attacher reads. -/
inductive ObjectKind where
  | volumeAttachment
  | persistentVolume
  | node
  | csiNode
  | secret
deriving DecidableEq, Repr

namespace ObjectKind

def name : ObjectKind → String
  | volumeAttachment => "volumeattachment"
  | persistentVolume => "persistentvolume"
  | node => "node"
  | csiNode => "csinode"
  | secret => "secret"

end ObjectKind

/-- Why a volume cannot be published. -/
inductive VolumeFault where
  /-- The attachment names no volume. -/
  | noVolume (attachment : String)
  | deleting (volume : String)
  /-- The volume has no CSI source. -/
  | notCsi (volume : String)
  | mixedAccessModes (volume : String)
  | unsupportedAccessModes (volume : String) (modes : List String)
  | described (text : String)
deriving DecidableEq, Repr

/-- Why the driver's name of a node is not known. -/
inductive NodeIdFault where
  /-- The node has no annotation. -/
  | unannotated (node : String)
  /-- The annotation is no JSON object of strings. -/
  | unreadable (node : String)
  /-- The annotation does not name the driver. -/
  | noDriver (node driver : String)
  | described (text : String)
deriving DecidableEq, Repr

/-- Why the settings or the set-up cannot be used. -/
inductive SettingsFault where
  /-- Work was asked for before the queues were given. -/
  | notReady
  /-- There are no workers. -/
  | noWorkers
  /-- Calls to the driver have no time. -/
  | noTimeout
  /-- The first delay between attempts is longer than the longest. -/
  | retryOrder (first longest : Nat)
  | negativePages
  /-- The limit on log lines is below the value for no limit. -/
  | negativeLogLength
  /-- Setting up the lease is tried again without a pause. -/
  | noRetryPeriod
  /-- The lease runs out before it is renewed. -/
  | lateRenewal
  | lateRetry
  /-- The rate of requests to the cluster is no positive number. -/
  | rate (text : String)
  | noBurst
  | metricsPath (path : String)
  | described (text : String)
deriving DecidableEq, Repr

/-- Why something failed. -/
inductive Failure where
  /-- An object is not there. -/
  | notFound (kind : ObjectKind) (name : String)
  /-- The object has changed since it was read. -/
  | conflict (name : String)
  /-- The cluster refused a request, with the status code of its answer if there was one. -/
  | cluster (code : Option Nat)
  | csi (error : Csi.Error)
  | invalidVolume (fault : VolumeFault)
  /-- The driver's name of the node is not known. -/
  | nodeId (fault : NodeIdFault)
  | serialization (text : String)
  | settings (fault : SettingsFault)
  /-- A cache did not fill in time. -/
  | cacheSync (kind : ObjectKind)
  | leaderElection (text : String)
deriving DecidableEq, Repr

/-- The annotation of a node that maps drivers to their names of the node. -/
def nodeIdAnnotation : String := "csi.volume.kubernetes.io/nodeid"

namespace VolumeFault

def message : VolumeFault → String
  | noVolume attachment =>
      s!"volume attachment {attachment} does not reference a persistent volume"
  | deleting volume => s!"PV {volume} is marked for deletion"
  | notCsi volume => s!"persistent volume {volume} is not a CSI volume"
  | mixedAccessModes volume =>
      "CSI does not support ReadOnlyMany and ReadWriteOnce on the same persistent volume " ++ volume
  | unsupportedAccessModes volume modes =>
      s!"persistent volume {volume} has unsupported access modes " ++ Text.quotedList modes
  | described text => text

end VolumeFault

namespace NodeIdFault

def jsonMark : String := "<json error>"

def message : NodeIdFault → String
  | unannotated node => s!"node {Text.quoted node} has no {nodeIdAnnotation} annotation"
  | unreadable node =>
      s!"cannot parse {nodeIdAnnotation} annotation on node {Text.quoted node}: {jsonMark}"
  | noDriver node driver =>
      s!"node {Text.quoted node} has no node ID for driver {Text.quoted driver}"
  | described text => text

end NodeIdFault

namespace SettingsFault

def message : SettingsFault → String
  | notReady => "handler used before init"
  | noWorkers => "worker-threads must be greater than zero"
  | noTimeout => "timeout must be greater than zero"
  | retryOrder first longest =>
      s!"retry-interval-start ({Duration.text first}) exceeds "
        ++ s!"retry-interval-max ({Duration.text longest})"
  | negativePages => "max-entries must not be negative"
  | negativeLogLength => "max-grpc-log-length must be -1 or greater"
  | noRetryPeriod => "leader-election-retry-period must be greater than zero"
  | lateRenewal => "leader-election-renew-deadline must be shorter than the lease duration"
  | lateRetry => "leader-election-retry-period must be shorter than the renew deadline"
  | rate text => s!"kube-api-qps must be a positive number, got {text}"
  | noBurst => "kube-api-burst must be greater than zero"
  | metricsPath path => s!"invalid metrics-path {Text.quoted path}"
  | described text => text

end SettingsFault

namespace Failure

/-- What stands for the words of the client of the cluster's interface. -/
def clusterMark : String := "<kube error>"

def message : Failure → String
  | notFound kind name => s!"{kind.name} {name} not found"
  | conflict name => s!"conflict writing {name}: the object has been modified"
  | cluster _ => s!"kubernetes API error: {clusterMark}"
  | csi error => error.message
  | invalidVolume fault => fault.message
  | nodeId fault => s!"failed to resolve node ID: {fault.message}"
  | serialization text => s!"serialization error: {text}"
  | settings fault => s!"invalid configuration: {fault.message}"
  | cacheSync kind => s!"timed out waiting for the {kind.name} cache to sync"
  | leaderElection text => s!"leader election: {text}"

/-- Whether trying again with a fresh copy of the object can help. -/
def isConflict : Failure → Bool
  | conflict _ => true
  | _ => false

/-- The part of a text up to and including the first occurrence of another one. -/
def upTo? (mark : List Char) : List Char → Option (List Char)
  | [] => if mark = [] then some [] else none
  | c :: rest =>
      if mark.isPrefixOf (c :: rest) then some mark
      else (upTo? mark rest).map (c :: ·)

def occursIn (part text : String) : Bool :=
  (upTo? part.toList text.toList).isSome

/-- A message with the words of the JSON reader replaced by their mark. -/
def maskedJson (text : String) : String :=
  if occursIn s!"cannot parse {nodeIdAnnotation} annotation on node " text then
    match upTo? "\": ".toList text.toList with
    | some kept => String.ofList kept ++ NodeIdFault.jsonMark
    | none => text
  else text

/-- A message with the words of the cluster's client replaced by their mark. -/
def maskedCluster (text : String) : String :=
  match upTo? "kubernetes API error: ".toList text.toList with
  | some kept => String.ofList kept ++ clusterMark
  | none => text

/-- A message with the words of others replaced by their marks. -/
def masked (text : String) : String :=
  maskedCluster (maskedJson text)

end Failure

end VolumeAttacher
