import VolumeAttacher.Proofs.Cluster.Writes
import VolumeAttacher.Proofs.Program.Ends
import VolumeAttacher.Reconcile.Attachment

/-!
# Sites

A `Site` is all that the work on one object depends on while nothing else interferes: the nodes and
secrets, the stored attachments and volumes, and the driver, of which the calls are kept that it has
been sent. What a site does not settle is left to the `Circumstances`: whether writes may be refused
that the store need not refuse, and what the driver may reply.

A write that is computed from the stored object is either refused, and then nothing changes, or it
is stored, and dropped at once if that finishes the object.
-/

namespace VolumeAttacher

namespace Table

variable {α : Type} [Versioned α] {before after : Table α} {name : String} {old : α}
  {content : α → α} {answer : Except Failure α}

/-- An object that is finished when it is written is dropped at once. -/
def Drops (name : String) (answer : Except Failure α) (after : Table α) : Prop :=
  ∀ written, answer = .ok written → Shelf.isFinished written → find? after name = none

/-- A write that is computed from the stored object is refused only where writes may be refused. -/
def Grants (refusable : Prop) (before : Table α) (name : String) (old : α)
    (answer : Except Failure α) : Prop :=
  ∀ failure, answer = .error failure → refusable ∨ ∀ stored, find? before name = some stored →
    (Versioned.metadata stored).resourceVersion ≠ (Versioned.metadata old).resourceVersion

/-- What may become of a write that is computed from the stored object. -/
theorem Written.cases (written : before.Written name old content answer after)
    {refusable : Prop} (grants : Grants refusable before name old answer)
    (found : find? before name = some old) :
    (∃ failure, answer = .error failure ∧ after = before ∧ refusable) ∨
      ∃ version, answer = .ok (Versioned.stamped (content old) version) ∧
        before.Stores name (Versioned.stamped (content old) version) after := by
  cases written with
  | refused failure =>
      refine .inl ⟨failure, rfl, rfl, ?_⟩
      rcases grants failure rfl with refusable | outdated
      · exact refusable
      · exact absurd rfl (outdated old found)
  | @accepted stored version _ foundStored sameVersion stores =>
      have same : stored = old := Option.some.inj (foundStored.symm.trans found)
      subst same
      exact .inr ⟨version, rfl, stores⟩

/-- Every write has some answer, whatever it is computed from. -/
theorem exists_written (refusable : Prop) (before : Table α) (name : String) (old : α)
    (content : α → α) :
    ∃ answer after, before.Written name old content answer after ∧ Drops name answer after ∧
      Grants refusable before name old answer := by
  by_cases current : ∃ stored, find? before name = some stored ∧
      (Versioned.metadata stored).resourceVersion = (Versioned.metadata old).resourceVersion
  · rcases current with ⟨stored, found, sameVersion⟩
    have granted (written : α) : Grants refusable before name old (.ok written) := by
      intro failure refused
      contradiction
    by_cases finished : Shelf.isFinished (Versioned.stamped (content stored) "")
    · have stores : before.Stores name (Versioned.stamped (content stored) "")
          (erase before name) :=
        ⟨.inr ⟨finished, by simp⟩, fun other different => by simp [different]⟩
      exact ⟨_, _, .accepted found sameVersion stores, fun _ _ _ => by simp, granted _⟩
    · have stores := stores_insert before name (Versioned.stamped (content stored) "")
      refine ⟨_, _, .accepted found sameVersion stores, ?_, granted _⟩
      intro written same isFinished
      exact absurd (Except.ok.inj same ▸ isFinished) finished
  · refine ⟨.error (.conflict name), before, .refused _, ?_, ?_⟩
    · intro _ written
      contradiction
    · intro failure _
      refine .inr ?_
      intro stored found sameVersion
      exact current ⟨stored, found, sameVersion⟩

end Table

namespace Reconcile

/-- What the work on an object looks up but never changes. -/
structure Backdrop where
  csiNode : String → Option CsiNode
  node : String → Option Node
  secret : String → String → Except Failure (Option Secret)

structure Site where
  backdrop : Backdrop
  attachments : Table VolumeAttachment
  volumes : Table PersistentVolume
  /-- The calls that the driver has been sent, the latest first. -/
  calls : List Csi.Call

structure Circumstances where
  /-- Whether writes may be refused that are computed from the stored object. -/
  refusable : Prop
  /-- What the driver may reply to a call. -/
  replies : (call : Csi.Call) → call.Answer → Prop

namespace Site

/-- Whether every object is stored under its own name. -/
structure IsNamed (site : Site) : Prop where
  attachments : ∀ {name attachment}, Table.find? site.attachments name = some attachment →
    attachment.name = name
  volumes : ∀ {name volume}, Table.find? site.volumes name = some volume → volume.name = name

/-- How a request may be answered in a site, and the site afterwards. -/
def Answered (circumstances : Circumstances) :
    (request : Request) → Site → request.Answer → Site → Prop
  | .csiNode name, before, answer, after =>
      answer = before.backdrop.csiNode name ∧ after = before
  | .node name, before, answer, after => answer = before.backdrop.node name ∧ after = before
  | .secret space name, before, answer, after =>
      answer = before.backdrop.secret space name ∧ after = before
  | .attachment name, before, answer, after =>
      answer = Table.find? before.attachments name ∧ after = before
  | .attachments, before, answer, after =>
      answer = Table.values before.attachments ∧ after = before
  | .volume name, before, answer, after =>
      answer = Table.find? before.volumes name ∧ after = before
  | .volumes, before, answer, after => answer = Table.values before.volumes ∧ after = before
  | .writeAttachment old new, before, answer, after =>
      ∃ attachments, after = { before with attachments } ∧
        before.attachments.Written old.name old (fun stored => { new with status := stored.status })
          answer attachments ∧
        Table.Drops old.name answer attachments ∧
        Table.Grants circumstances.refusable before.attachments old.name old answer
  | .writeStatus old new, before, answer, after =>
      ∃ attachments, after = { before with attachments } ∧
        before.attachments.Written old.name old (fun stored => { stored with status := new.status })
          answer attachments ∧
        Table.Grants circumstances.refusable before.attachments old.name old answer
  | .writeVolume old new, before, answer, after =>
      ∃ volumes, after = { before with volumes } ∧
        before.volumes.Written old.name old (fun _ => new) answer volumes ∧
        Table.Drops old.name answer volumes ∧
        Table.Grants circumstances.refusable before.volumes old.name old answer
  | .call call, before, answer, after =>
      circumstances.replies call answer ∧ after = { before with calls := call :: before.calls }
  | .currentTime, before, _, after => after = before
  | .enqueue _ _, before, _, after => after = before
  | .retry _ _, before, _, after => after = before
  | .forget _ _, before, _, after => after = before

/-- Every request has some answer if every call has a reply. -/
theorem exists_answered {circumstances : Circumstances}
    (replies : ∀ call, ∃ answer, circumstances.replies call answer) (request : Request)
    (before : Site) : ∃ answer after, Answered circumstances request before answer after := by
  cases request with
  | csiNode _ | node _ | secret _ _ | attachment _ | attachments | volume _ | volumes =>
      exact ⟨_, before, rfl, rfl⟩
  | writeAttachment old new =>
      rcases Table.exists_written circumstances.refusable before.attachments old.name old
        (fun stored => { new with status := stored.status }) with
        ⟨answer, attachments, written, drops, grants⟩
      exact ⟨answer, _, attachments, rfl, written, drops, grants⟩
  | writeStatus old new =>
      rcases Table.exists_written circumstances.refusable before.attachments old.name old
        (fun stored => { stored with status := new.status }) with
        ⟨answer, attachments, written, _, grants⟩
      exact ⟨answer, _, attachments, rfl, written, grants⟩
  | writeVolume old new =>
      rcases Table.exists_written circumstances.refusable before.volumes old.name old
        (fun _ => new) with ⟨answer, volumes, written, drops, grants⟩
      exact ⟨answer, _, volumes, rfl, written, drops, grants⟩
  | call call =>
      rcases replies call with ⟨answer, reply⟩
      exact ⟨answer, _, reply, rfl⟩
  | currentTime => exact ⟨(⟨0, 0⟩ : Timestamp), before, rfl⟩
  | enqueue _ _ | retry _ _ | forget _ _ => exact ⟨(), before, rfl⟩

end Site

namespace Circumstances

/-- Whether the driver confirms that volumes are attached with one publish context only. -/
def Confirms (circumstances : Circumstances) (publishContext : Table String) : Prop :=
  ∀ (request : Csi.PublishRequest) (response : Csi.PublishResponse),
    circumstances.replies (.publish request)
      (.ok response : Except Csi.Error Csi.PublishResponse) →
    response.publishContext = publishContext

/-- Whether no write is refused that need not be, and the driver fails no call. -/
structure IsSmooth (circumstances : Circumstances) : Prop where
  granted : ¬ circumstances.refusable
  publishes : ∀ (request : Csi.PublishRequest) (error : Csi.Error),
    ¬ circumstances.replies (.publish request)
      (.error error : Except Csi.Error Csi.PublishResponse)
  unpublishes : ∀ (request : Csi.UnpublishRequest) (error : Csi.Error),
    ¬ circumstances.replies (.unpublish request)
      (.error error : Except Csi.Error Csi.UnpublishResponse)

/-- Any write may be refused, and the driver may reply anything. -/
def arbitrary : Circumstances where
  refusable := True
  replies _ _ := True

/-- Any write may be refused, and the driver may fail any call. What it does not fail to attach, it
confirms with one publish context. -/
def rough (publishContext : Table String) : Circumstances where
  refusable := True
  replies
    | .publish _ => fun (answer : Except Csi.Error Csi.PublishResponse) =>
        ∀ response, answer = .ok response → response.publishContext = publishContext
    | .unpublish _ | .list _ => fun _ => True

/-- No write is refused that need not be, and the driver fails no call. -/
def smooth (publishContext : Table String) : Circumstances where
  refusable := False
  replies
    | .publish _ => fun (answer : Except Csi.Error Csi.PublishResponse) =>
        answer = .ok { publishContext }
    | .unpublish _ => fun (answer : Except Csi.Error Csi.UnpublishResponse) => answer = .ok {}
    | .list _ => fun (answer : Except Csi.Error Csi.ListResponse) => answer = .ok {}

variable (publishContext : Table String)

theorem rough_confirms : (rough publishContext).Confirms publishContext :=
  fun _ response reply => reply response rfl

theorem smooth_confirms : (smooth publishContext).Confirms publishContext := by
  intro request response reply
  cases reply
  rfl

theorem smooth_isSmooth : (smooth publishContext).IsSmooth where
  granted := id
  publishes request error reply := by cases reply
  unpublishes request error reply := by cases reply

theorem smooth_replies (call : Csi.Call) :
    ∃ answer, (smooth publishContext).replies call answer := by
  cases call with
  | publish request => exact ⟨_, rfl⟩
  | unpublish request => exact ⟨_, rfl⟩
  | list request => exact ⟨_, rfl⟩

end Circumstances

end Reconcile

end VolumeAttacher
