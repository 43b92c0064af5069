import VolumeAttacher.Failure
import VolumeAttacher.Queue.WorkQueue

/-!
# Settings for attaching

How the attacher reaches its driver, how much it does at a time and how often it tries again.
-/

namespace VolumeAttacher

/-- The settings for attaching. -/
structure AttachingSettings where
  csiAddress : String := "unix:///run/csi/socket"
  workers : Nat := 10
  timeout : Nat := Duration.ofSeconds 15
  resync : Nat := Duration.ofSeconds 600
  reconcile : Nat := Duration.ofSeconds 60
  /-- The first delay between attempts. -/
  retryStart : Nat := Duration.ofSeconds 1
  retryMax : Nat := Duration.ofSeconds 300
  /-- The greatest number of entries in a page of a listing; zero leaves it to the driver. -/
  maxEntries : Int := 0
  /-- The greatest length of a logged message; -1 sets no limit. -/
  maxLogLength : Int := -1
  /-- The file system for volumes that name none. -/
  defaultFileSystem : String := ""
deriving DecidableEq, Repr

namespace AttachingSettings

/-- What is wrong with the settings first, if anything. -/
def fault? (settings : AttachingSettings) : Option SettingsFault :=
  if settings.workers = 0 then some .noWorkers
  else if settings.timeout = 0 then some .noTimeout
  else if settings.retryMax < settings.retryStart then
    some (.retryOrder settings.retryStart settings.retryMax)
  else if settings.maxEntries < 0 then some .negativePages
  else if settings.maxLogLength < -1 then some .negativeLogLength
  else none

/-- How the delays of a controller's queues grow. -/
def retryPolicy (settings : AttachingSettings) : RetryPolicy where
  first := settings.retryStart
  longest := settings.retryMax

/-- Each of the queues that a controller begins with. -/
def queue (settings : AttachingSettings) : WorkQueue :=
  .empty settings.retryPolicy

end AttachingSettings

end VolumeAttacher
