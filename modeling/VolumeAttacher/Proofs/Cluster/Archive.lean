import VolumeAttacher.Proofs.Cluster.Chronicle
import VolumeAttacher.Proofs.Reconcile.Action

/-!
# The versions of attachments

Calls that run at the same time, or that see the cluster through caches that lag, work on
attachments in versions that may be outdated. An `Archive` is the chronicle of the attachments.
-/

namespace VolumeAttacher.Reconcile

/-- The stored attachments with every version that has been stored. -/
abbrev Archive : Type :=
  Chronicle VolumeAttachment

namespace Archive

/-- How a request may be answered. Only writes of attachments change the archive, and everything
else is answered in any way: caches may lag. -/
def Answered : (request : Request) → Archive → request.Answer → Archive → Prop
  | .writeAttachment old new, before, answer, after =>
      before.Written old (fun stored => { new with status := stored.status }) answer after
  | .writeStatus old new, before, answer, after =>
      before.Written old (fun stored => { stored with status := new.status }) answer after
  | _, before, _, after => after = before

/-- A request that only looks at things leaves the archive as it is. -/
theorem Answered.eq_of_isLook {request : Request} {before after : Archive} {answer : request.Answer}
    (answered : Answered request before answer after) (isLook : request.isLook) :
    after = before := by
  cases request with
  | writeAttachment _ _ | writeStatus _ _ | writeVolume _ _ => contradiction
  | attachment _ | attachments | volume _ | volumes | csiNode _ | node _ | secret _ _
  | currentTime | enqueue _ _ | retry _ _ | forget _ _ | call _ => exact answered

/-- A change by others, who write attachments that keep a finalizer and that meet a condition, or
drop attachments that meet another one. -/
abbrev Changed (finalizer : String)
    (writable : Option VolumeAttachment → VolumeAttachment → Prop)
    (droppable : VolumeAttachment → Prop) (before : Archive) : Archive → Prop :=
  Chronicle.Changed before
    (fun old new => (∀ stored, old = some stored →
      stored.metadata.hasFinalizer finalizer → new.metadata.hasFinalizer finalizer) ∧
        writable old new) droppable

/-- Writes an attachment, with the number of its versions as the version. -/
def write (archive : Archive) (old : VolumeAttachment)
    (content : VolumeAttachment → VolumeAttachment) : Except Failure VolumeAttachment × Archive :=
  Chronicle.write archive old content (toString ((archive.past old.name).length + 1))

/-- Answers a request when each node has the given drivers, every volume is the given one, and the
driver does all that it is asked. -/
def respond (node : CsiNode) (volume : PersistentVolume) :
    (request : Request) → Archive → request.Answer × Archive
  | .csiNode _, archive => (some node, archive)
  | .node _, archive => (none, archive)
  | .volume _, archive => (some volume, archive)
  | .attachment name, archive => (Table.find? archive.objects name, archive)
  | .attachments, archive => (Table.values archive.objects, archive)
  | .volumes, archive => ([volume], archive)
  | .secret _ _, archive => (.ok none, archive)
  | .writeAttachment old new, archive =>
      archive.write old fun stored => { new with status := stored.status }
  | .writeStatus old new, archive =>
      archive.write old fun stored => { stored with status := new.status }
  | .writeVolume _ new, archive => (.ok new, archive)
  | .call (.publish _), archive => (Except.ok {}, archive)
  | .call (.unpublish _), archive => (Except.ok {}, archive)
  | .call (.list _), archive => (Except.ok {}, archive)
  | .currentTime, archive => ({ seconds := 0, nanoseconds := 0 }, archive)
  | .enqueue _ _, archive | .retry _ _, archive | .forget _ _, archive => ((), archive)

theorem respond_answered (node : CsiNode) (volume : PersistentVolume) (request : Request)
    (archive : Archive) :
    Answered request archive (respond node volume request archive).1
      (respond node volume request archive).2 := by
  cases request with
  | writeAttachment old new => exact archive.write_written old _ _
  | writeStatus old new => exact archive.write_written old _ _
  | call call => cases call <;> rfl
  | attachment _ | attachments | volume _ | volumes | csiNode _ | node _ | secret _ _
  | writeVolume _ _ | currentTime | enqueue _ _ | retry _ _ | forget _ _ => rfl

end Archive

end VolumeAttacher.Reconcile
