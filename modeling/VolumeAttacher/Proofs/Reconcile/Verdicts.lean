import VolumeAttacher.Proofs.Reconcile.Edits
import VolumeAttacher.Reconcile.Controller

/-!
# How a sync ends

A sync of a controller first looks up the object under its key. If that is gone the failures of the
key are forgotten, and an attachment of another driver is passed by. Otherwise the sync goes through
whatever work there is, and its last request is a verdict on it: that the failures of the key are
forgotten, or that another one is counted.

`sync_follows` proves this as a discipline of requests whose stages are the phases of a sync.
-/

namespace VolumeAttacher.Reconcile

/-- What a sync finds under its key. -/
inductive Finding where
  | gone
  /-- An attachment that is left to another driver. -/
  | foreign
  | own
deriving DecidableEq

/-- What comes of a sync. -/
inductive Outcome where
  | failed
  /-- The work is done, or there is nothing to work on any more. -/
  | settled
  | passedBy
deriving DecidableEq

/-- What has come of a sync, by what it found and returns. -/
def Outcome.of (found : Option Finding) : Except Failure Unit → Outcome
  | .error _ => failed
  | .ok () => if found = some .foreign then passedBy else settled

/-- A controller with a reconciler that has been given its queues. -/
def Reconciler.controller (reconciler : Reconciler) (driver : String) : Controller :=
  ⟨driver, (Handler.publishing reconciler).withQueues⟩

/-- Whether an attachment is left to other drivers. -/
def Reconciler.isForeign (reconciler : Reconciler) (driver : String)
    (attachment : VolumeAttachment) : Bool :=
  !(attachment.spec.attacher = driver && reconciler.isAddressee attachment)

/-- What the answer to a look-up finds. -/
def Reconciler.finding? (reconciler : Reconciler) (driver : String) :
    (request : Request) → request.Answer → Option Finding
  | .attachment _, (answer : Option VolumeAttachment) =>
      match answer with
      | none => some .gone
      | some attachment =>
          if reconciler.isForeign driver attachment then some .foreign else some .own
  | .volume _, (answer : Option PersistentVolume) =>
      match answer with
      | none => some .gone
      | some _ => some .own
  | _, _ => none

/-- Whether a look-up finds nothing but an object of the name. -/
def Request.FindsNamed : (request : Request) → request.Answer → Prop
  | .attachment name, answer => ∀ attachment, answer = some attachment → attachment.name = name
  | .volume name, answer => ∀ volume, answer = some volume → volume.name = name
  | _, _ => True

/-- What is left of a sync. -/
inductive Phase where
  | lookup
  | gone
  | work
  | passedBy
  | settled
  | failed
  /-- The look-up has found an object of another name. -/
  | astray

namespace Phase

def ofAttachment (reconciler : Reconciler) (driver key : String) :
    Option VolumeAttachment → Phase
  | none => gone
  | some attachment =>
      if attachment.name = key then
        if reconciler.isForeign driver attachment then passedBy else work
      else astray

def ofVolume (key : String) : Option PersistentVolume → Phase
  | none => gone
  | some volume => if volume.name = key then work else astray

/-- Whether a sync may succeed in a phase. -/
def succeeds : Phase → Bool
  | passedBy | settled | astray => true
  | _ => false

/-- Whether a sync may fail in a phase. -/
def fails : Phase → Bool
  | failed | astray => true
  | _ => false

/-- Whether a sync may return in a phase. -/
def Ends : Except Failure Unit → Phase → Prop :=
  Action.Ending (fun _ phase => phase.succeeds) fun _ phase => phase.fails

/-- Whether what a sync has found fits its phase. -/
def Finds : Phase → Option Finding → Prop
  | lookup, found => found = none
  | gone, found => found = some .gone
  | work, found => found = some .own
  | passedBy, found => found = some .foreign
  | settled, found => found ≠ some .foreign
  | failed, _ => True
  | astray, _ => False

/-- What has come of a sync that has returned. -/
def outcome? : Phase → Option Outcome
  | passedBy => some .passedBy
  | settled => some .settled
  | failed => some .failed
  | lookup | gone | work | astray => none

/-- Whether nothing has come of a sync yet, or it has passed by an attachment. -/
def IsAside (phase : Phase) : Prop :=
  phase.outcome? = none ∨ phase.outcome? = some .passedBy

/-- The requests that the sync of a task makes in each phase. -/
inductive Move (reconciler : Reconciler) (driver : String) (task : Task) :
    Phase → (request : Request) → (request.Answer → Phase) → Prop
  | attachment (isAttachment : task.queue = .attachments) :
      Move reconciler driver task lookup (.attachment task.key)
        (ofAttachment reconciler driver task.key)
  | volume (isVolume : task.queue = .volumes) :
      Move reconciler driver task lookup (.volume task.key) (ofVolume task.key)
  | forget : Move reconciler driver task gone (.forget task.queue task.key) fun _ => settled
  | work {request : Request} (noVerdict : request.isVerdict = false) :
      Move reconciler driver task work request fun _ => work
  | settle : Move reconciler driver task work (.forget task.queue task.key) fun _ => settled
  | fail : Move reconciler driver task work (.retry task.queue task.key) fun _ => failed
  | astray {request : Request} : Move reconciler driver task astray request fun _ => astray

variable {reconciler : Reconciler} {driver key : String} {task : Task}

theorem ofAttachment_finds {answer : Option VolumeAttachment}
    (named : (Request.attachment key).FindsNamed answer) :
    (ofAttachment reconciler driver key answer).Finds
      (reconciler.finding? driver (.attachment key) answer) := by
  cases answer with
  | none => rfl
  | some attachment =>
      simp only [ofAttachment, Reconciler.finding?, if_pos (named attachment rfl)]
      split <;> rfl

theorem ofVolume_finds (reconciler : Reconciler) (driver : String)
    {answer : Option PersistentVolume}
    (named : (Request.volume key).FindsNamed answer) :
    (ofVolume key answer).Finds (reconciler.finding? driver (.volume key) answer) := by
  cases answer with
  | none => rfl
  | some volume =>
      simp only [ofVolume, Reconciler.finding?, if_pos (named volume rfl)]
      rfl

theorem isAside_ofAttachment (answer : Option VolumeAttachment) :
    (ofAttachment reconciler driver key answer).IsAside := by
  cases answer with
  | none => exact .inl rfl
  | some attachment =>
      simp only [ofAttachment]
      split
      · split
        · exact .inr rfl
        · exact .inl rfl
      · exact .inl rfl

theorem isAside_ofVolume (answer : Option PersistentVolume) : (ofVolume key answer).IsAside := by
  cases answer with
  | none => exact .inl rfl
  | some volume =>
      simp only [ofVolume]
      split <;> exact .inl rfl

theorem follows_astray (program : Requests (Except Failure Unit)) :
    program.Follows (Move reconciler driver task) Ends astray := by
  induction program with
  | done result => cases result <;> rfl
  | ask request next ih => exact ⟨_, .astray, ih⟩

/-- Work on a key ends in a verdict on it. -/
theorem scheduling_follows {given : Reconciler} {work : Action Unit}
    (works : given.Works .everything (fun _ => True) work) :
    (scheduling task.queue task.key work).run.Follows (Move reconciler driver task) Ends
      .work := by
  have worked : Program.Follows (Move reconciler driver task) (fun _ after => after = .work)
      work.run .work :=
    (works.follows Knowledge.tells_everything fun _ mayMake => .work mayMake.noVerdict).mono
      fun _ _ ended => ended.2
  apply Action.follows_bind
  apply Action.follows_outcome
  apply Program.Follows.mono worked
  rintro result _ rfl
  cases result with
  | ok _ => exact ⟨_, .settle, fun _ => rfl⟩
  | error failure => exact ⟨_, .fail, fun _ => rfl⟩

theorem syncAttachment_follows (key : String) :
    ((reconciler.controller driver).syncAttachment key).run.Follows
      (Move reconciler driver ⟨.attachments, key⟩) Ends .lookup := by
  refine ⟨_, .attachment rfl, ?_⟩
  intro answer
  rcases answer with _ | attachment
  · exact ⟨_, .forget, fun _ => rfl⟩
  · change Program.Follows _ _ (ExceptT.run (if attachment.spec.attacher = driver then
      Reconciler.syncAttachment { reconciler with ready := true } attachment else pure ()))
      (if attachment.name = key then if _ then _ else _ else _)
    by_cases named : attachment.name = key
    · subst named
      rw [if_pos rfl]
      by_cases dispatched : attachment.spec.attacher = driver
      · rw [if_pos dispatched, Reconciler.syncAttachment]
        by_cases isAddressee : reconciler.isAddressee attachment
        · have isOwn : reconciler.isForeign driver attachment = false := by
            simp [Reconciler.isForeign, dispatched, isAddressee]
          have works : Reconciler.Works { reconciler with ready := true } .everything
              (fun _ => True) (if attachment.isDeleting then
                Reconciler.detach { reconciler with ready := true } attachment
                else Reconciler.attach { reconciler with ready := true } attachment) := by
            split
            · exact Reconciler.detach_works trivial
            · exact Reconciler.attach_works trivial
          rw [isOwn, if_pos (by exact isAddressee)]
          exact scheduling_follows works
        · have isForeign : reconciler.isForeign driver attachment := by
            simp [Reconciler.isForeign, isAddressee]
          rw [isForeign, if_neg (by exact isAddressee)]
          exact rfl
      · have isForeign : reconciler.isForeign driver attachment := by
          simp [Reconciler.isForeign, dispatched]
        rw [isForeign, if_neg dispatched]
        exact rfl
    · rw [if_neg named]
      exact follows_astray _

theorem syncVolume_follows (key : String) :
    ((reconciler.controller driver).syncVolume key).run.Follows
      (Move reconciler driver ⟨.volumes, key⟩) Ends .lookup := by
  refine ⟨_, .volume rfl, ?_⟩
  intro answer
  rcases answer with _ | volume
  · exact ⟨_, .forget, fun _ => rfl⟩
  · change Program.Follows _ _ _ (if volume.name = key then _ else _)
    split
    next named =>
        subst named
        exact scheduling_follows (Reconciler.releaseVolume_works trivial)
    next => exact follows_astray _

/-- Every sync of a controller goes through these phases. -/
theorem sync_follows (task : Task) :
    ((reconciler.controller driver).sync task).run.Follows (Move reconciler driver task) Ends
      .lookup := by
  rcases task with ⟨queue, key⟩
  cases queue with
  | attachments => exact syncAttachment_follows key
  | volumes => exact syncVolume_follows key

end Phase

end VolumeAttacher.Reconcile
