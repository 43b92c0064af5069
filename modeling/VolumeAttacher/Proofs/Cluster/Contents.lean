import Mathlib.Logic.Function.Basic
import VolumeAttacher.Proofs.Cluster.Site

/-!
# Contents of a cluster

What is stored in a site, seen without what tells no more than how often and when it was written:
the versions of objects and the times of recorded errors. An attachment without a status counts as
one with the initial status. Sites are compared by their `Contents`.

A write that is not refused sets the content under one name, and leaves the rest of the site alone.
-/

namespace VolumeAttacher

def VolumeError.untimed (error : VolumeError) : VolumeError :=
  { error with time := none }

def AttachmentStatus.untimed (status : AttachmentStatus) : AttachmentStatus :=
  { status with
    attachError := status.attachError.map VolumeError.untimed
    detachError := status.detachError.map VolumeError.untimed }

def Metadata.unversioned (metadata : Metadata) : Metadata :=
  { metadata with resourceVersion := none }

/-- An attachment without its version and the times of its errors, and with a status. -/
def VolumeAttachment.bare (attachment : VolumeAttachment) : VolumeAttachment where
  metadata := attachment.metadata.unversioned
  spec := attachment.spec
  status := some (attachment.status.getD {}).untimed

/-- A volume without its version. -/
def PersistentVolume.bare (volume : PersistentVolume) : PersistentVolume :=
  { volume with metadata := volume.metadata.unversioned }

@[simp]
theorem VolumeAttachment.bare_stamped (attachment : VolumeAttachment) (version : String) :
    (Versioned.stamped attachment version).bare = attachment.bare :=
  rfl

@[simp]
theorem PersistentVolume.bare_stamped (volume : PersistentVolume) (version : String) :
    (Versioned.stamped volume version).bare = volume.bare :=
  rfl

@[simp]
theorem VolumeAttachment.isAttached_bare (attachment : VolumeAttachment) :
    attachment.bare.isAttached = attachment.isAttached := by
  cases status : attachment.status <;>
    simp [bare, isAttached, status, AttachmentStatus.untimed]

@[simp]
theorem Shelf.isFinished_stamped {α : Type} [Versioned α] (object : α) (version : String) :
    Shelf.isFinished (Versioned.stamped object version) = Shelf.isFinished object := by
  simp [Shelf.isFinished, Versioned.stamped, Versioned.metadata_withMetadata, Metadata.isDeleting,
    Metadata.finalizerList]

namespace Table

/-- Whether a table is another one with what is stored under a name set. -/
structure Sets {α : Type} (before : Table α) (name : String) (content : Option α)
    (after : Table α) : Prop where
  found : find? after name = content
  others : ∀ other, other ≠ name → find? after other = find? before other

variable {α : Type} {before middle after : Table α} {name : String} {content later : Option α}

theorem Sets.refl (before : Table α) (name : String) :
    before.Sets name (find? before name) before :=
  ⟨rfl, fun _ _ => rfl⟩

theorem Sets.trans (sets : before.Sets name content middle)
    (setsLater : middle.Sets name later after) : before.Sets name later after where
  found := setsLater.found
  others other different := (setsLater.others other different).trans (sets.others other different)

end Table

namespace Reconcile

@[ext]
structure Contents where
  attachments : String → Option VolumeAttachment
  volumes : String → Option PersistentVolume

namespace Contents

def set (contents : Contents) (name : String) (attachment : Option VolumeAttachment) : Contents :=
  { contents with attachments := Function.update contents.attachments name attachment }

def setVolume (contents : Contents) (name : String) (volume : Option PersistentVolume) :
    Contents :=
  { contents with volumes := Function.update contents.volumes name volume }

variable (contents : Contents) (name : String)

@[simp]
theorem set_set (attachment later : Option VolumeAttachment) :
    (contents.set name attachment).set name later = contents.set name later := by
  simp [set]

@[simp]
theorem setVolume_setVolume (volume later : Option PersistentVolume) :
    (contents.setVolume name volume).setVolume name later = contents.setVolume name later := by
  simp [setVolume]

@[simp]
theorem setVolume_set (other : String) (attachment : Option VolumeAttachment)
    (volume : Option PersistentVolume) :
    (contents.set other attachment).setVolume name volume =
      (contents.setVolume name volume).set other attachment :=
  rfl

@[simp]
theorem volumes_set (attachment : Option VolumeAttachment) :
    (contents.set name attachment).volumes = contents.volumes :=
  rfl

@[simp]
theorem volumes_setVolume (volume : Option PersistentVolume) :
    (contents.setVolume name volume).volumes name = volume := by
  simp [setVolume]

@[simp]
theorem set_self : contents.set name (contents.attachments name) = contents := by
  simp [set]

@[simp]
theorem setVolume_self : contents.setVolume name (contents.volumes name) = contents := by
  simp [setVolume]

end Contents

namespace Site

def contents (site : Site) : Contents where
  attachments name := (Table.find? site.attachments name).map VolumeAttachment.bare
  volumes name := (Table.find? site.volumes name).map PersistentVolume.bare

/-- Whether a site is another one with what is stored as attachment under a name set. -/
structure Sets (before : Site) (name : String) (content : Option VolumeAttachment)
    (after : Site) : Prop extends
    Table.Sets before.attachments name content after.attachments where
  backdrop : after.backdrop = before.backdrop
  calls : after.calls = before.calls
  volumes : after.volumes = before.volumes

/-- Whether sites differ in their volumes only. -/
structure SameBesidesVolumes (before after : Site) : Prop where
  backdrop : after.backdrop = before.backdrop
  calls : after.calls = before.calls
  attachments : after.attachments = before.attachments

/-- Whether a site is another one with the volume that is stored under a name set. -/
structure SetsVolume (before : Site) (name : String) (volume : PersistentVolume)
    (after : Site) : Prop extends
    Table.Sets before.volumes name (some volume) after.volumes, SameBesidesVolumes before after

variable {before after : Site} {name : String} {content : Option VolumeAttachment}
  {attachment : VolumeAttachment} {volume : PersistentVolume}

theorem Sets.refl (before : Site) (name : String) :
    before.Sets name (Table.find? before.attachments name) before :=
  ⟨.refl _ _, rfl, rfl, rfl⟩

theorem Sets.contents (sets : before.Sets name content after) :
    after.contents = before.contents.set name (content.map VolumeAttachment.bare) := by
  ext1
  · funext other
    by_cases same : other = name
    · subst same
      simp [Site.contents, Contents.set, sets.found]
    · simp [Site.contents, Contents.set, same, sets.others other same]
  · simp [Site.contents, Contents.set, sets.volumes]

theorem Sets.isNamed (sets : before.Sets name content after) (named : before.IsNamed)
    (namedContent : ∀ attachment, content = some attachment → attachment.name = name) :
    after.IsNamed where
  attachments := by
    intro other attachment found
    by_cases same : other = name
    · subst same
      exact namedContent attachment (sets.found.symm.trans found)
    · exact named.attachments ((sets.others other same).symm.trans found)
  volumes := by
    intro other volume found
    rw [sets.volumes] at found
    exact named.volumes found

theorem SetsVolume.contents (sets : before.SetsVolume name volume after) :
    after.contents = before.contents.setVolume name (some volume.bare) := by
  ext1
  · simp [Site.contents, Contents.setVolume, sets.attachments]
  · funext other
    by_cases same : other = name
    · subst same
      simp [Site.contents, Contents.setVolume, sets.found]
    · simp [Site.contents, Contents.setVolume, same, sets.others other same]

theorem SetsVolume.isNamed (sets : before.SetsVolume name volume after) (named : before.IsNamed)
    (namedVolume : volume.name = name) : after.IsNamed where
  attachments := by
    intro other attachment found
    rw [sets.attachments] at found
    exact named.attachments found
  volumes := by
    intro other object found
    by_cases same : other = name
    · subst same
      exact Option.some.inj (sets.found.symm.trans found) ▸ namedVolume
    · exact named.volumes ((sets.others other same).symm.trans found)

variable {circumstances : Circumstances} {old new : VolumeAttachment}
  {answer : Except Failure VolumeAttachment}

/-- What may become of writing the status of a stored attachment that is not finished. -/
theorem Answered.status_cases
    (answered : Answered circumstances (.writeStatus old new) before answer after)
    (found : Table.find? before.attachments old.name = some old)
    (unfinished : Shelf.isFinished old = false) :
    (∃ failure, answer = .error failure ∧ after = before ∧ circumstances.refusable) ∨
      ∃ written, answer = .ok written ∧ before.Sets old.name (some written) after ∧
        ∃ version, written = Versioned.stamped { old with status := new.status } version := by
  rcases answered with ⟨attachments, rfl, written, grants⟩
  rcases written.cases grants found with ⟨failure, rfl, rfl, refusable⟩ | ⟨version, rfl, stores⟩
  · exact .inl ⟨failure, rfl, rfl, refusable⟩
  · have stored : Table.find? attachments old.name =
        some (Versioned.stamped { old with status := new.status } version) := by
      rcases stores.found with stored | ⟨finished, _⟩
      · exact stored
      · rw [Shelf.isFinished_stamped] at finished
        exact absurd (unfinished.symm.trans finished) Bool.false_ne_true
    exact .inr ⟨_, rfl, ⟨⟨stored, stores.others⟩, rfl, rfl, rfl⟩, version, rfl⟩

/-- What may become of writing a stored attachment without its status. -/
theorem Answered.attachment_cases
    (answered : Answered circumstances (.writeAttachment old new) before answer after)
    (found : Table.find? before.attachments old.name = some old) :
    (∃ failure, answer = .error failure ∧ after = before ∧ circumstances.refusable) ∨
      ∃ written, answer = .ok written ∧
        before.Sets old.name (if Shelf.isFinished new then none else some written) after ∧
        ∃ version, written = Versioned.stamped { new with status := old.status } version := by
  rcases answered with ⟨attachments, rfl, written, drops, grants⟩
  rcases written.cases grants found with ⟨failure, rfl, rfl, refusable⟩ | ⟨version, rfl, stores⟩
  · exact .inl ⟨failure, rfl, rfl, refusable⟩
  · refine .inr ⟨_, rfl, ⟨⟨?_, stores.others⟩, rfl, rfl, rfl⟩, version, rfl⟩
    have sameFinished : Shelf.isFinished
        (Versioned.stamped { new with status := old.status } version) = Shelf.isFinished new :=
      rfl
    split
    next finished => exact drops _ rfl (sameFinished.trans finished)
    next unfinished =>
        rcases stores.found with stored | ⟨finished, _⟩
        · exact stored
        · exact absurd (sameFinished.symm.trans finished) unfinished

/-- What may become of writing a stored volume that is not finished then. -/
theorem Answered.volume_cases {old new : PersistentVolume}
    {answer : Except Failure PersistentVolume}
    (answered : Answered circumstances (.writeVolume old new) before answer after)
    (found : Table.find? before.volumes old.name = some old)
    (unfinished : Shelf.isFinished new = false) :
    (∃ failure, answer = .error failure ∧ after = before ∧ circumstances.refusable) ∨
      ∃ written, answer = .ok written ∧ before.SetsVolume old.name written after ∧
        ∃ version, written = Versioned.stamped new version := by
  rcases answered with ⟨volumes, rfl, written, _, grants⟩
  rcases written.cases grants found with ⟨failure, rfl, rfl, refusable⟩ | ⟨version, rfl, stores⟩
  · exact .inl ⟨failure, rfl, rfl, refusable⟩
  · have stored : Table.find? volumes old.name = some (Versioned.stamped new version) := by
      rcases stores.found with stored | ⟨finished, _⟩
      · exact stored
      · rw [Shelf.isFinished_stamped] at finished
        exact absurd (unfinished.symm.trans finished) Bool.false_ne_true
    exact .inr ⟨_, rfl, ⟨⟨stored, stores.others⟩, ⟨rfl, rfl, rfl⟩⟩, version, rfl⟩

end Site

end Reconcile

end VolumeAttacher
