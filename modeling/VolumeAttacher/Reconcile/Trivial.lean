import VolumeAttacher.Reconcile.Attachment

/-!
# Reconciling without a driver's help

For drivers that need not publish volumes on nodes, every attachment is marked as attached as soon
as it is seen. There is nothing to undo, and so there are no finalizers.
-/

namespace VolumeAttacher.Reconcile.Trivial

/-- Marks an attachment as attached. -/
def syncAttachment (ready : Bool) (attachment : VolumeAttachment) : Action Unit := do
  requireQueues ready
  scheduling .attachments attachment.name do
    if !attachment.isAttached then
      let _ ← Action.writeStatus attachment
        (attachment.withStatus fun status => { status with attached := true })

end VolumeAttacher.Reconcile.Trivial
