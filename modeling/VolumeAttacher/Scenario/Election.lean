import VolumeAttacher.FailureForm
import VolumeAttacher.Json.Fields
import VolumeAttacher.Simulation.Election

/-!
# Scenarios of the election of a leader

One attacher tries to become the leader.
-/

namespace VolumeAttacher.Scenario

open Simulation (Election LeaseHolder)

/-- A time in whole seconds, a half rounded up. -/
def roundedSeconds (time : Nat) : Json :=
  .ofNat ((Duration.wholeMillis time + 500) / 1000)

def electionOf (input : Json) : Election :=
  let duration (name : String) (absent : Nat) : Nat :=
    Duration.ofMillis ((input.natAt? name).getD absent)
  { driver := input.textAt "driver"
    settings :=
      { enabled := true
        space := input.textAt? "namespace"
        leaseDuration := duration "lease_ms" 15000
        renewDeadline := duration "renew_ms" 10000
        retryPeriod := duration "retry_ms" 5000 }
    holder := match input.textAt "held" with
      | "active" => .active
      | "expired" => .expired
      | _ => .nobody
    failures := input.natAt "failures"
    lostAt := input.natAt? "lose_after"
    stop := duration "cancel_after_ms" 1000 }

def ofElection (input : Json) : Json :=
  let election := electionOf input
  let acquired := election.acquired?
  let firstRenewal := (election.renewal? 1).bind fun renewal =>
    acquired.map fun time => roundedSeconds (renewal - time)
  let hold : Json := .ofExcept Failure.toJson (fun _ => .text "released") election.hold
  let optional (present : Bool) (name : String) (value : Json) : List (String × Json) :=
    if present then [(name, value)] else []
  .ofMembers <|
    [("cancelled", .bool true), ("acquired", .bool acquired.isSome),
      ("path", .text (election.writingPath?.getD "")),
      ("lease_s", .ofOption (fun _ => .ofNat election.settings.leaseTiming.duration)
        election.written?),
      ("first_renewal_s", firstRenewal.getD .null),
      ("released", .bool election.isReleased),
      ("identity", .ofOption (fun _ => .bool true) election.written?)]
    ++ optional (election.holder ≠ .expired) "after_s"
      (roundedSeconds (acquired.getD election.stop))
    ++ optional acquired.isSome "hold" hold

end VolumeAttacher.Scenario
