import VolumeAttacher.Csi.DriverName
import VolumeAttacher.Net.Uri
import VolumeAttacher.Settings.LeaderElection

/-!
# Runs of a leader election

One attacher tries to become the leader and holds the lease until it is told to stop or loses it.
Each failed attempt to set up the lease is repeated after a pause; a lease that another one holds is
waited for; a lease that nobody holds is taken at once. The holder renews its lease at a fixed
interval. Being told to stop comes before becoming the leader or losing the lease at the same time,
but after a renewal.
-/

namespace VolumeAttacher.Simulation

/-- Who holds the lease at first. -/
inductive LeaseHolder where
  | nobody
  | active
  | expired
deriving DecidableEq, Repr

/-- The circumstances of an election. -/
structure Election where
  driver : String
  settings : LeaderElectionSettings
  /-- Who holds the lease at first. -/
  holder : LeaseHolder := .nobody
  failures : Nat := 0
  /-- At which renewal another one has the lease, if at any. -/
  lostAt : Option Nat := none
  stop : Nat

namespace Election

def leaseName (election : Election) : String :=
  DriverName.lease election.driver

/-- The path of the lease, if its name space can stand in one. -/
def leasePath? (election : Election) : Option String :=
  let space := election.settings.leaseSpace none
  (UriTarget.ofText?
    s!"/apis/coordination.k8s.io/v1/namespaces/{space}/leases/{election.leaseName}").map
    UriTarget.path

/-- When the lease has been set up, if it ever is. -/
def setUpTime? (election : Election) : Option Nat :=
  election.leasePath?.map fun _ =>
    election.failures * Duration.roundUp election.settings.retryPeriod

/-- When the attacher writes itself into the lease, if it does before it is told to stop. -/
def written? (election : Election) : Option Nat :=
  if election.holder = .active then none
  else election.setUpTime?.filter (· < election.stop)

/-- When the attacher becomes the leader, if it does before it is told to stop. It does not if
another one has the lease as soon as it is written. -/
def acquired? (election : Election) : Option Nat :=
  if election.lostAt = some 0 then none else election.written?

/-- The path of the requests that write the lease, if there are any. A lease that is set up just
when the attacher is told to stop is given back at once. -/
def writingPath? (election : Election) : Option String := do
  guard (election.holder ≠ .active)
  guard ((← election.setUpTime?) ≤ election.stop)
  election.leasePath?

def interval (election : Election) : Nat :=
  Duration.ofSeconds election.settings.leaseTiming.interval

/-- The time of a renewal by the holder, unless it is told to stop before. -/
def renewal? (election : Election) (number : Nat) : Option Nat :=
  (election.acquired?.map (· + number * election.interval)).filter (· ≤ election.stop)

/-- When another one has the lease, if it does while the attacher renews it. -/
def lossTime? (election : Election) : Option Nat :=
  election.lostAt.bind election.renewal?

/-- Whether the holder loses the lease before it is told to stop. -/
def isLost (election : Election) : Bool :=
  election.lossTime?.any (· < election.stop)

/-- Whether the holder has a lease to give back when it is told to stop. -/
def isReleased (election : Election) : Bool :=
  election.acquired?.isSome && election.lossTime?.isNone

def loss (election : Election) : Failure :=
  .leaderElection
    s!"lost lease {election.leaseName}: lease taken over or not renewed in time"

/-- How holding the lease ends: the holder is told to stop and gives it back, or it loses it. -/
def hold (election : Election) : Except Failure Unit :=
  if election.isLost then .error election.loss else .ok ()

end Election

end VolumeAttacher.Simulation
