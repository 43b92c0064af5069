import VolumeAttacher.Reconcile.Trivial

/-!
# The choice of a reconciler

Which reconciler works for a driver is decided once: the one that publishes volumes through the
driver, or the trivial one for drivers that need not publish volumes.
-/

namespace VolumeAttacher.Reconcile

/-- A reconciler of either sort. -/
inductive Handler where
  | publishing (reconciler : Reconciler)
  /-- Volumes need not be published; the flag tells whether the queues have been given. -/
  | trivial (ready : Bool)
deriving DecidableEq

namespace Handler

/-- Works on an attachment. -/
def syncAttachment : Handler → VolumeAttachment → Action Unit
  | publishing reconciler => reconciler.syncAttachment
  | trivial ready => Trivial.syncAttachment ready

/-- Works on a volume. -/
def syncVolume : Handler → PersistentVolume → Action Unit
  | publishing reconciler => reconciler.syncVolume
  | trivial _ => fun _ => pure ()

/-- Works on everything. -/
def reconcileAll : Handler → Action Unit
  | publishing reconciler => reconciler.reconcileAll
  | trivial _ => pure ()

/-- The handler after it has been given its queues. -/
def withQueues : Handler → Handler
  | publishing reconciler => publishing { reconciler with ready := true }
  | trivial _ => trivial true

end Handler

end VolumeAttacher.Reconcile
