import VolumeAttacher.Cluster.Store
import VolumeAttacher.Failure
import VolumeAttacher.Proofs.Object.Finalizers

/-!
# Writes to the cluster

What a write may do to the stored objects of one kind, whichever store they are in. A write is
either refused, and then nothing changes, or the stored object was in the version that the write was
computed from, and the new content is stored in a new version.
-/

namespace VolumeAttacher

namespace Versioned

variable {α : Type} [Versioned α]

def name (object : α) : String :=
  (metadata object).displayName

def version (object : α) : Option String :=
  (metadata object).resourceVersion

def stamped (object : α) (version : String) : α :=
  withMetadata object { metadata object with resourceVersion := some version }

@[simp]
theorem name_stamped (object : α) (version : String) :
    name (stamped object version) = name object := by
  simp [name, stamped, metadata_withMetadata, Metadata.displayName]

@[simp]
theorem name_attachment (attachment : VolumeAttachment) : name attachment = attachment.name :=
  rfl

@[simp]
theorem isAttached_stamped (attachment : VolumeAttachment) (version : String) :
    (stamped attachment version).isAttached = attachment.isAttached :=
  rfl

/-- What may become of a write that was computed from an old object and that makes new content of
the stored object, whatever the store is like: it is refused, for whatever reason, and then nothing
changes; or the stored object is in the version of the old one, and the content is stored in some
version. -/
inductive Written {σ : Type} (before : σ) (found? : Option α) (stores : α → σ → Prop) (old : α)
    (content : α → α) : Except Failure α → σ → Prop
  | refused (failure : Failure) :
      Written before found? stores old content (.error failure) before
  | accepted {stored : α} {stamp : String} {after : σ} (found : found? = some stored)
      (sameVersion : version stored = version old)
      (gains : stores (stamped (content stored) stamp) after) :
      Written before found? stores old content (.ok (stamped (content stored) stamp)) after

end Versioned

variable {α : Type} [Versioned α] {finalizer : String}

theorem Shelf.not_isFinished {object : α}
    (hasFinalizer : (Versioned.metadata object).hasFinalizer finalizer) :
    Shelf.isFinished object = false := by
  unfold Shelf.isFinished
  cases list : (Versioned.metadata object).finalizerList with
  | nil => simp [Metadata.hasFinalizer, list] at hasFinalizer
  | cons first rest => simp [list]

namespace Table

theorem mem_values_of_find? {β : Type} {table : Table β} {name : String} {value : β}
    (found : find? table name = some value) : value ∈ values table := by
  rcases List.lookup_eq_some_iff.mp found with ⟨first, rest, rfl, _⟩
  simp [values]

/-- Whether a table is another one with an object stored under a name, which may have been dropped
at once if it is to be dropped. -/
structure Stores (before : Table α) (name : String) (written : α) (after : Table α) : Prop where
  found : find? after name = some written ∨ Shelf.isFinished written ∧ find? after name = none
  others : ∀ other, other ≠ name → find? after other = find? before other

theorem stores_insert (before : Table α) (name : String) (written : α) :
    before.Stores name written (insert before name written) where
  found := .inl ((find?_insert _ _ _ _).trans (if_pos rfl))
  others _ different := (find?_insert _ _ _ _).trans (if_neg different)

theorem Stores.find?_eq {before after : Table α} {name : String} {written : α}
    (stores : before.Stores name written after)
    (hasFinalizer : (Versioned.metadata written).hasFinalizer finalizer) :
    find? after name = some written := by
  rcases stores.found with found | ⟨finished, dropped⟩
  · exact found
  · rw [Shelf.not_isFinished hasFinalizer] at finished
    contradiction

/-- What is found after an object has been stored was there before, or it is that object. -/
theorem Stores.eq_or_find? {before after : Table α} {name other : String} {written object : α}
    (stores : before.Stores name written after) (found : find? after other = some object) :
    other = name ∧ object = written ∨ other ≠ name ∧ find? before other = some object := by
  by_cases same : other = name
  · subst same
    rcases stores.found with stored | ⟨_, dropped⟩
    · exact Or.inl ⟨rfl, Option.some.inj (found.symm.trans stored)⟩
    · rw [dropped] at found
      contradiction
  · exact Or.inr ⟨same, (stores.others other same).symm.trans found⟩

/-- What may become of a write to a table under a name. -/
abbrev Written (before : Table α) (name : String) (old : α) (content : α → α) :
    Except Failure α → Table α → Prop :=
  Versioned.Written before (find? before name) (before.Stores name) old content

end Table

end VolumeAttacher
