import VolumeAttacher.Json.Fields
import VolumeAttacher.Settings.CommandLine

/-!
# The JSON form of settings

Durations are written in seconds with nine digits after the point.
-/

namespace VolumeAttacher

/-- A duration in seconds. -/
def Duration.toJson (duration : Nat) : Json := .text (Duration.secondsText duration)

/-- The text of a fault, or `ok`. -/
def SettingsFault.verdictJson (fault : Option SettingsFault) : Json :=
  .text (fault.elim "ok" fun fault => (Failure.settings fault).message)

def CommandLine.toJson (settings : CommandLine) : Json :=
  let attaching := settings.attaching
  let election := settings.leaderElection
  .ofMembers
    [("csi_address", .text attaching.csiAddress), ("worker_threads", .ofNat attaching.workers),
      ("timeout", Duration.toJson attaching.timeout), ("resync", Duration.toJson attaching.resync),
      ("reconcile_sync", Duration.toJson attaching.reconcile),
      ("retry_interval_start", Duration.toJson attaching.retryStart),
      ("retry_interval_max", Duration.toJson attaching.retryMax),
      ("max_entries", .ofInt attaching.maxEntries),
      ("max_grpc_log_length", .ofInt attaching.maxLogLength),
      ("default_fstype", .text attaching.defaultFileSystem),
      ("leader_election", .bool election.enabled),
      ("leader_election_namespace", .ofOption .text election.space),
      ("lease_duration", Duration.toJson election.leaseDuration),
      ("renew_deadline", Duration.toJson election.renewDeadline),
      ("retry_period", Duration.toJson election.retryPeriod),
      ("kubeconfig", .ofOption .text settings.kubeconfig),
      ("http_endpoint", .ofOption (fun endpoint => .text (Endpoint.text endpoint))
        settings.httpEndpoint),
      ("metrics_path", .text settings.metricsPath),
      ("kube_api_qps", .text settings.kubeApiQps.text),
      ("kube_api_burst", .ofNat settings.kubeApiBurst),
      ("log_format", .text (match settings.logFormat with
        | .text => "Text"
        | .json => "Json")),
      ("validate", SettingsFault.verdictJson settings.fault?)]

/-- The kind of a usage error and the option or word that it is about. -/
def UsageError.toJson (error : UsageError) : Json :=
  let optionError (kind : String) (option : CommandOption) : Json :=
    .ofMembers [("error", .text kind), ("arg", .text option.flag)]
  match error with
  | .help => .ofMembers [("error", .text "DisplayHelp"), ("arg", .null)]
  | .version => .ofMembers [("error", .text "DisplayVersion"), ("arg", .null)]
  | .unknown word =>
      .ofMembers [("error", .text "UnknownArgument"),
        ("arg", if word.isEmpty then .null else .text word)]
  | .missingValue option => optionError "InvalidValue" option
  | .malformedValue option => optionError "ValueValidation" option
  | .repeated option => optionError "ArgumentConflict" option
  | .superfluousValue option => optionError "TooManyValues" option

/-- The duration of a member that is written in seconds. -/
def Duration.ofJson? (json : Json) (name : String) : Option Nat :=
  (json.textAt? name).bind Duration.ofSecondsText?

/-- The settings for attaching that a value holds; missing ones keep their defaults. -/
def AttachingSettings.ofJson (json : Json) : AttachingSettings :=
  let absent : AttachingSettings := {}
  { absent with
    workers := (json.natAt? "worker_threads").getD absent.workers
    timeout := (Duration.ofJson? json "timeout").getD absent.timeout
    retryStart := (Duration.ofJson? json "retry_interval_start").getD absent.retryStart
    retryMax := (Duration.ofJson? json "retry_interval_max").getD absent.retryMax
    maxEntries := ((json.int32At? "max_entries").map Int32.toInt).getD absent.maxEntries
    maxLogLength := (json.intAt? "max_grpc_log_length").getD absent.maxLogLength }

/-- The settings for the election of a leader that a value holds; missing ones keep their defaults.
-/
def LeaderElectionSettings.ofJson (json : Json) : LeaderElectionSettings :=
  let absent : LeaderElectionSettings := {}
  { enabled := json.boolAt "enabled"
    space := json.textAt? "namespace"
    leaseDuration := (Duration.ofJson? json "lease_duration").getD absent.leaseDuration
    renewDeadline := (Duration.ofJson? json "renew_deadline").getD absent.renewDeadline
    retryPeriod := (Duration.ofJson? json "retry_period").getD absent.retryPeriod }

end VolumeAttacher
