import VolumeAttacher.Csi.Address
import VolumeAttacher.Net.Uri
import VolumeAttacher.Queue.Backoff
import VolumeAttacher.Time.Duration

/-!
# Connecting to a driver

A connection is tried again and again, with growing delays, until the driver can be dialled. After
that the driver is dialled anew whenever the connection is needed and has been lost; each such dial
over a socket file is reported as a loss, whether or not it succeeds.
-/

namespace VolumeAttacher.Csi

/-- What dials a driver. -/
structure Dialler where
  address : Address
  connected : Bool := false
  losses : Nat := 0
deriving DecidableEq, Repr

/-- Dials the driver, with or without success. Losses are reported for socket files alone. -/
def Dialler.dial (dialler : Dialler) (succeeds : Bool) : Dialler :=
  match dialler.address with
  | .tcp _ => dialler
  | .unix _ =>
      { dialler with
        connected := dialler.connected || succeeds
        losses := if dialler.connected then dialler.losses + 1 else dialler.losses }

/-- A connection to a driver. -/
structure Connection where
  dialler : Dialler
  listening : Bool := true
  alive : Bool := true
deriving DecidableEq, Repr

namespace Connection

def retryPolicy : RetryPolicy :=
  ⟨Duration.ofSeconds 1, Duration.ofSeconds 10⟩

/-- The address to connect to. A host that cannot stand in a URI makes the address invalid. -/
def addressOf (text : String) : Except Error Address := do
  match ← Address.ofText text with
  | .unix path => return .unix path
  | .tcp host =>
      if (Uri.ofText? s!"http://{host}").isSome then return .tcp host
      else .error (.invalidAddress s!"{host}: invalid URI")

/-- The time of the first attempt that is not before a given time, among at most so many attempts
from a time on with a delay after it. -/
def attemptFrom (ready : Nat) : Nat → Nat → Nat → Nat
  | 0, time, _ => time
  | attempts + 1, time, delay =>
      if ready ≤ time then time
      else attemptFrom ready attempts (time + RetryPolicy.wait delay) (retryPolicy.next delay)

/-- The time at which a driver is connected to that can be dialled from a given time on. Each delay
is at least as long as the first one, so that the time bounds the number of attempts. -/
def timeOfSuccess (ready : Nat) : Nat :=
  attemptFrom ready (ready / retryPolicy.first + 1) 0 retryPolicy.first

/-- The connection after the first dial that succeeded. -/
def established (address : Address) : Connection where
  dialler := Dialler.dial { address } true

def drop (connection : Connection) : Connection :=
  { connection with alive := false }

/-- The connection breaks and the driver can no longer be dialled. -/
def vanish (connection : Connection) : Connection :=
  { connection with alive := false, listening := false }

/-- Makes the connection usable by dialling the driver if it is lost. The answer tells whether that
worked. -/
def restore (connection : Connection) : Bool × Connection :=
  if connection.alive then (true, connection)
  else
    let dialler := connection.dialler.dial connection.listening
    (connection.listening, { connection with dialler, alive := connection.listening })

end Connection

end VolumeAttacher.Csi
