import VolumeAttacher.Csi.Capability
import VolumeAttacher.Csi.Error
import VolumeAttacher.Queue.Backoff
import VolumeAttacher.Time.Duration

/-!
# Getting to know a driver

Before anything else a driver is probed until it is ready, and then asked for its name and for what
it can do.
-/

namespace VolumeAttacher.Csi

/-- The name of a driver. A driver without a name cannot be used. -/
def driverName (answer : Except Error PluginInfoResponse) : Except Error String :=
  answer.bind fun response =>
    if response.name.isEmpty then
      .error (.invalidArgument "driver returned an empty name from GetPluginInfo")
    else .ok response.name

def hasController (answer : Except Error PluginCapabilitiesResponse) : Except Error Bool :=
  answer.map fun response => (PluginFeature.ofResponse response).contains .controllerService

abbrev ProbeAnswer : Type :=
  Except Error Bool

def ProbeAnswer.isReady : ProbeAnswer → Bool
  | .ok ready => ready
  | .error _ => false

/-- How probing went until the driver was ready. -/
structure Probing where
  probes : Nat
  /-- When the last one was made. -/
  time : Nat
deriving DecidableEq, Repr

/-- Probes a driver that gives some answers and is ready from then on. After each answer but the one
that the driver is ready the next probe waits, longer and longer. -/
def probeUntilReady (policy : RetryPolicy) (answers : List ProbeAnswer) : Probing :=
  go answers policy.first 0 1
where
  /-- Makes a probe at a time, with the delay before the next one and the number of the probe. -/
  go : List ProbeAnswer → Nat → Nat → Nat → Probing
    | [], _, time, probes => ⟨probes, time⟩
    | answer :: answers, delay, time, probes =>
        if answer.isReady then ⟨probes, time⟩
        else
          let next := Duration.roundUp (time + RetryPolicy.wait delay)
          go answers (policy.next delay) next (probes + 1)

end VolumeAttacher.Csi
