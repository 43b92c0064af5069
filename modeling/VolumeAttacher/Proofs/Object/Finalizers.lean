import VolumeAttacher.Object.Metadata

/-!
# Finalizers

What putting a finalizer on an object and taking it off changes, and what it leaves alone.
-/

namespace VolumeAttacher

namespace Metadata

variable (metadata : Metadata) (finalizer : String)

@[simp]
theorem displayName_addFinalizer : (metadata.addFinalizer finalizer).displayName =
    metadata.displayName := by
  unfold addFinalizer
  split <;> rfl

@[simp]
theorem displayName_annotate (name value : String) : (metadata.annotate name value).displayName =
    metadata.displayName :=
  rfl

@[simp]
theorem hasFinalizer_addFinalizer : (metadata.addFinalizer finalizer).hasFinalizer finalizer := by
  simp only [hasFinalizer, finalizerList_addFinalizer, List.contains_iff_mem]
  split
  · assumption
  · simp

@[simp]
theorem hasFinalizer_removeFinalizer :
    (metadata.removeFinalizer finalizer).hasFinalizer finalizer = false := by
  simp [hasFinalizer]

theorem hasFinalizer_addFinalizer_of_hasFinalizer {other : String}
    (carries : metadata.hasFinalizer other) :
    (metadata.addFinalizer finalizer).hasFinalizer other := by
  simp only [hasFinalizer, finalizerList_addFinalizer, List.contains_iff_mem] at carries ⊢
  split
  · exact carries
  · exact List.mem_append_left _ carries

theorem hasFinalizer_removeFinalizer_of_ne {other : String} (different : other ≠ finalizer) :
    (metadata.removeFinalizer finalizer).hasFinalizer other = metadata.hasFinalizer other := by
  simp [hasFinalizer, different]

@[simp]
theorem hasFinalizer_annotate (name value : String) :
    (metadata.annotate name value).hasFinalizer finalizer = metadata.hasFinalizer finalizer :=
  rfl

@[simp]
theorem isDeleting_addFinalizer : (metadata.addFinalizer finalizer).isDeleting =
    metadata.isDeleting := by
  unfold addFinalizer
  split <;> rfl

@[simp]
theorem isDeleting_annotate (name value : String) :
    (metadata.annotate name value).isDeleting = metadata.isDeleting :=
  rfl

end Metadata

end VolumeAttacher
