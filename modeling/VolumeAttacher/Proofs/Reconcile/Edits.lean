import VolumeAttacher.Proofs.Reconcile.Remit

/-!
# What a reconciler writes

Every write of a reconciler is computed from one object, by one of seven edits: the finalizer is put
on a volume or taken off, the same for an attachment, where the driver's name of the node may be
annotated with it, and the status of an attachment is restated. `Reconciler.MayMake` lists them.
The object has been given to the call, or found in a cache, or returned by a write before; a
`Knowledge` says which objects these may be, and the work on objects is followed under the
assumption that it is told of no others.
-/

namespace VolumeAttacher.Reconcile

/-- Which objects are known. -/
structure Knowledge where
  attachments : VolumeAttachment → Prop
  volumes : PersistentVolume → Prop

/-- Whether an answer tells only of objects that are known. -/
def Knowledge.tells (known : Knowledge) : (request : Request) → request.Answer → Prop
  | .attachment _, answer => ∀ attachment, answer = some attachment → known.attachments attachment
  | .attachments, (answer : List VolumeAttachment) =>
      ∀ attachment ∈ answer, known.attachments attachment
  | .volume _, answer => ∀ volume, answer = some volume → known.volumes volume
  | .volumes, (answer : List PersistentVolume) => ∀ volume ∈ answer, known.volumes volume
  | .writeAttachment _ _, answer =>
      ∀ attachment, answer = .ok attachment → known.attachments attachment
  | .writeStatus _ _, answer => ∀ attachment, answer = .ok attachment → known.attachments attachment
  | .writeVolume _ _, answer => ∀ volume, answer = .ok volume → known.volumes volume
  | _, _ => True

/-- Whether what is known is known too where more may be known. -/
structure Knowledge.IsWithin (known wider : Knowledge) : Prop where
  attachments : ∀ {attachment}, known.attachments attachment → wider.attachments attachment
  volumes : ∀ {volume}, known.volumes volume → wider.volumes volume

theorem Knowledge.IsWithin.tells {known wider : Knowledge} (within : known.IsWithin wider)
    {request : Request} {answer : request.Answer} (tells : known.tells request answer) :
    wider.tells request answer := by
  cases request with
  | attachment | writeAttachment | writeStatus =>
      exact fun attachment same => within.attachments (tells attachment same)
  | attachments => exact fun attachment listed => within.attachments (tells attachment listed)
  | volume | writeVolume => exact fun volume same => within.volumes (tells volume same)
  | volumes => exact fun volume listed => within.volumes (tells volume listed)
  | _ => trivial

/-- That every object is known. -/
def Knowledge.everything : Knowledge := ⟨fun _ => True, fun _ => True⟩

theorem Knowledge.tells_everything (request : Request) (answer : request.Answer) :
    everything.tells request answer := by
  cases request <;> simp [tells, everything]

/-- Whether a request writes an object. -/
def Request.isWrite : Request → Bool
  | writeAttachment _ _ | writeStatus _ _ | writeVolume _ _ => true
  | _ => false

/-- Whether the object that a write is computed from is known. -/
def Request.IsOfKnown (known : Knowledge) : Request → Prop
  | writeAttachment old _ | writeStatus old _ => known.attachments old
  | writeVolume old _ => known.volumes old
  | _ => True

namespace Reconciler

variable (reconciler : Reconciler)

/-- The requests that work on an object makes, by what is known: a write is one of the edits of a
known object, and nothing else is a write or a verdict. -/
inductive MayMake (known : Knowledge) : Request → Prop
  | other {request : Request} (noWrite : request.isWrite = false)
      (noVerdict : request.isVerdict = false) : MayMake known request
  | shield {volume : PersistentVolume} (isKnown : known.volumes volume)
      (lacks : volume.metadata.hasFinalizer reconciler.finalizer = false) :
      MayMake known (.writeVolume volume
        { volume with metadata := volume.metadata.addFinalizer reconciler.finalizer })
  | release {volume : PersistentVolume} (isKnown : known.volumes volume) :
      MayMake known (.writeVolume volume
        { volume with metadata := volume.metadata.removeFinalizer reconciler.finalizer })
  | guard {attachment : VolumeAttachment} (isKnown : known.attachments attachment)
      (lacks : attachment.metadata.hasFinalizer reconciler.finalizer = false)
      (nodeId : Except Failure String) :
      MayMake known
        (.writeAttachment attachment (reconciler.protectedAttachment attachment nodeId))
  | unguard {attachment : VolumeAttachment} (isKnown : known.attachments attachment) :
      MayMake known (.writeAttachment attachment
        { attachment with metadata := attachment.metadata.removeFinalizer reconciler.finalizer })
  | restate {attachment new : VolumeAttachment} (isKnown : known.attachments attachment)
      (restates : Restates attachment.status new.status) :
      MayMake known (.writeStatus attachment new)

/-- Whether an action makes only such requests, and if it does not fail ends with a result that is
wanted, as long as it is told only of known objects. -/
def Works (known : Knowledge) {α : Type} (ends : α → Prop) (action : Action α) : Prop :=
  action.Heeds (reconciler.MayMake known) known.tells ends

variable {reconciler} {known : Knowledge} {attachment : VolumeAttachment}
  {volume : PersistentVolume}

theorem mayMake_of_isGlance {request : Request} (isGlance : request.isGlance) :
    reconciler.MayMake known request := by
  cases request with
  | writeAttachment | writeStatus | writeVolume | retry | forget => contradiction
  | _ => exact .other rfl rfl

theorem MayMake.noVerdict {request : Request} (mayMake : reconciler.MayMake known request) :
    request.isVerdict = false := by
  cases mayMake with
  | other _ noVerdict => exact noVerdict
  | shield | release | guard | unguard | restate => rfl

/-- The edits of known objects as a remit. -/
def edits (reconciler : Reconciler) (known : Knowledge) : reconciler.Remit where
  may := reconciler.MayMake known
  told := known.tells
  attachments := known.attachments
  volumes := known.volumes
  glance := mayMake_of_isGlance
  shield := .shield
  guard := .guard
  unguard := .unguard
  restate isKnown restates := .restate isKnown restates
  found tells := tells _ rfl
  listed tells attachment listed _ := tells attachment listed
  guarded _ tells := tells _ rfl
  restated _ tells := tells _ rfl

theorem attach_works (isKnown : known.attachments attachment) :
    reconciler.Works known (fun _ => True) (reconciler.attach attachment) := by
  have works : (reconciler.edits known).Works (fun _ => True) (reconciler.attach attachment) :=
    Remit.works_attach isKnown fun _ => .other rfl rfl
  exact works

theorem detach_works (isKnown : known.attachments attachment) :
    reconciler.Works known (fun _ => True) (reconciler.detach attachment) := by
  have works : (reconciler.edits known).Works (fun _ => True) (reconciler.detach attachment) :=
    Remit.works_detach isKnown fun _ => .other rfl rfl
  exact works

theorem releaseVolume_works (isKnown : known.volumes volume) :
    reconciler.Works known (fun _ => True) (reconciler.releaseVolume volume) := by
  have works : (reconciler.edits known).Works (fun _ => True)
      (reconciler.releaseVolume volume) :=
    Remit.works_releaseVolume (.release isKnown)
  exact works

/-- Whether the object that a call is given is known. -/
def Errand.IsKnown (known : Knowledge) : Errand → Prop
  | .attachment given => known.attachments given
  | .volume given => known.volumes given
  | .everything => True

/-- Whether a request may be made by a call, which also says how its work has ended. -/
def CallMayMake (reconciler : Reconciler) (known : Knowledge) (request : Request) : Prop :=
  reconciler.MayMake known request ∨ request.isVerdict

theorem CallMayMake.isOfKnown {request : Request}
    (mayMake : reconciler.CallMayMake known request) : request.IsOfKnown known := by
  rcases mayMake with mayMake | isVerdict
  · cases mayMake with
    | other noWrite =>
        cases request with
        | writeAttachment | writeStatus | writeVolume => contradiction
        | _ => trivial
    | shield isKnown | release isKnown | guard isKnown | unguard isKnown | restate isKnown =>
        exact isKnown
  · cases request with
    | retry | forget => trivial
    | _ => contradiction

/-- Every call makes only edits of known objects if it is given one. -/
theorem Errand.heeds {errand : Errand} (isKnown : errand.IsKnown known) :
    (errand.work reconciler).Heeds (reconciler.CallMayMake known) known.tells fun _ => True := by
  have covers : (reconciler.edits known).Covers errand := by
    cases errand with
    | attachment given => exact fun _ => ⟨isKnown, fun _ => .other rfl rfl⟩
    | volume given => exact .release isKnown
    | everything => trivial
  exact covers.heeds

end Reconciler

end VolumeAttacher.Reconcile
