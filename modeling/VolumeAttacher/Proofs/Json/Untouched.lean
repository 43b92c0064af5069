import Mathlib.Data.List.Infix
import VolumeAttacher.Proofs.Json.MergePatch

/-!
# What a merge patch leaves alone

A path of member names leads into nested objects. What a patch makes of the value at the end of a
path depends on that value and on what the patch holds there, as long as the patch holds nothing but
objects on the way. So a patch can be applied to objects that it was not computed from, and it is
known what becomes of each of their values.

The patch that turns one object into another holds nothing where the two agree, except for the
version that it carries: this is sent as a whole. A version that is a text has nothing below it.
-/

namespace VolumeAttacher.Json

/-- The value to which a path of member names leads. -/
def valueAt? : Json → List String → Option Json
  | value, [] => some value
  | value, name :: path => (Table.find? value.members name).bind fun inner => inner.valueAt? path

/-- Whether a value holds an object at every proper prefix of a path. -/
def HasObjectsAlong (value : Json) (path : List String) : Prop :=
  ∀ before, before <+: path → before ≠ path →
    ∃ members, value.valueAt? before = some (.object members)

/-- The members of the value to which a path leads, if that is an object. -/
def membersAt? (value : Json) (path : List String) : Option (Table Json) :=
  (value.valueAt? path).bind members?

/-- Where the version of an object is kept. -/
def versionPath : List String :=
  ["metadata", "resourceVersion"]

variable {old new target members : Table Json} {value : Json} {name next : String}
  {path : List String}

@[simp]
theorem valueAt?_nil (value : Json) : value.valueAt? [] = some value := rfl

@[simp]
theorem valueAt?_cons (members : Table Json) (name : String) (path : List String) :
    (object members).valueAt? (name :: path) =
      (Table.find? members name).bind fun inner => inner.valueAt? path := rfl

theorem members?_eq_some_iff : value.members? = some members ↔ value = .object members := by
  cases value <;> simp [members?]

instance (value : Json) (path : List String) : Decidable (value.HasObjectsAlong path) :=
  decidable_of_iff
    (∀ before ∈ path.inits, before ≠ path → (value.membersAt? before).isSome = true) <| by
      simp [HasObjectsAlong, membersAt?, Option.isSome_iff_exists, Option.bind_eq_some_iff,
        members?_eq_some_iff]

namespace HasObjectsAlong

theorem exists_members (along : value.HasObjectsAlong (name :: path)) :
    ∃ members, value = .object members := by
  rcases along [] List.nil_prefix (by simp) with ⟨members, found⟩
  exact ⟨members, Option.some.inj found⟩

theorem exists_inner (along : (object members).HasObjectsAlong (name :: next :: path)) :
    ∃ inner, Table.find? members name = some inner := by
  rcases along [name] ⟨next :: path, rfl⟩ (by simp) with ⟨_, found⟩
  rw [valueAt?_cons, Option.bind_eq_some_iff] at found
  rcases found with ⟨inner, found, _⟩
  exact ⟨inner, found⟩

theorem inner {inner : Json} (along : (object members).HasObjectsAlong (name :: path))
    (found : Table.find? members name = some inner) : inner.HasObjectsAlong path := by
  intro before isPrefix notWhole
  have longer := along (name :: before) (List.cons_prefix_cons.mpr ⟨rfl, isPrefix⟩)
    (by simpa using notWhole)
  rwa [valueAt?_cons, found, Option.bind_some] at longer

end HasObjectsAlong

/-- Whether a patch, if there is one, holds nothing but objects in order on the way along a path. -/
def Passes : Option Json → List String → Prop
  | none, _ => True
  | some _, [] => True
  | some (.object members), name :: path =>
      Table.isOrdered members = true ∧ Passes (Table.find? members name) path
  | some _, _ :: _ => False

theorem passes_none (path : List String) : Passes none path := by
  cases path <;> trivial

theorem passes_nil (patch : Option Json) : Passes patch [] := by
  cases patch <;> trivial

theorem HasObjectsAlong.passes (along : value.HasObjectsAlong path)
    (ordered : value.isOrdered = true) : Passes (some value) path := by
  induction path generalizing value with
  | nil => exact passes_nil _
  | cons name path ih =>
      rcases along.exists_members with ⟨members, rfl⟩
      refine ⟨(everywhere_object.mp ordered).1, ?_⟩
      cases found : Table.find? members name with
      | none => exact passes_none _
      | some inner => exact ih (along.inner found) (everywhere_find? ordered found)

/-- What a patch makes of the value at the end of a path. -/
theorem changed?_bind_valueAt? {held patch : Option Json} (passes : Passes patch path) :
    ((changed? held patch).bind fun value => value.valueAt? path) =
      changed? (held.bind fun value => value.valueAt? path)
        (patch.bind fun change => change.valueAt? path) := by
  induction path generalizing held patch with
  | nil => simp
  | cons name path ih =>
      cases patch with
      | none => rfl
      | some change =>
          cases change with
          | object changes =>
              rcases passes with ⟨ordered, passes⟩
              have within : held.bind (fun value => value.valueAt? (name :: path)) =
                  (Table.find? (held.getD .null).members name).bind
                    fun value => value.valueAt? path := by
                cases held <;> rfl
              rw [changed?_some (by simp), applyPatch, Option.bind_some, Option.bind_some,
                valueAt?_cons, valueAt?_cons,
                find?_applyMembers ordered, ih passes, within]
          | _ => exact passes.elim

theorem difference?_self {value : Json} (ordered : value.isOrdered = true) :
    difference? value value = none := by
  cases value with
  | object members =>
      rcases everywhere_object.mp ordered with ⟨membersOrdered, -⟩
      have nothing : patchMembers members members = [] := by
        refine Table.eq_of_find?_eq (isOrdered_patchMembers membersOrdered) Table.isOrdered_nil ?_
        intro name
        rw [find?_patchMembers membersOrdered]
        cases found : Table.find? members name with
        | none => rfl
        | some inner =>
            have smaller := sizeOf_lt_of_find? found
            exact difference?_self (everywhere_find? ordered found)
      rw [difference?_object, nothing]
      rfl
  | _ => simp [difference?]
termination_by sizeOf value

/-- Whether a patch, if there is one, holds nothing at the end of a path, and only objects on the
way. -/
structure Spares (patch : Option Json) (path : List String) : Prop where
  passes : Passes patch path
  silent : patch.bind (fun change => change.valueAt? path) = none

theorem spares_none (path : List String) : Spares none path :=
  ⟨passes_none path, rfl⟩

theorem spares_object (ordered : Table.isOrdered members = true)
    (spares : Spares (Table.find? members name) path) :
    Spares (some (.object members)) (name :: path) :=
  ⟨⟨ordered, spares.passes⟩, spares.silent⟩

/-- A patch is silent on a member at whose end the old and the new object agree if the changes of
its values are. -/
theorem spares_change? (oldAlong : (object old).HasObjectsAlong (name :: path))
    (newAlong : (object new).HasObjectsAlong (name :: path))
    (agree : (object old).valueAt? (name :: path) = (object new).valueAt? (name :: path))
    (spares : ∀ previous value, Table.find? old name = some previous →
      Table.find? new name = some value → previous.valueAt? path = value.valueAt? path →
        Spares (difference? previous value) path) :
    Spares (change? (Table.find? old name) (Table.find? new name)) path := by
  rw [valueAt?_cons, valueAt?_cons] at agree
  cases wasHeld : Table.find? old name with
  | none =>
      cases found : Table.find? new name with
      | none => exact spares_none path
      | some value =>
          cases path with
          | nil => simp [wasHeld, found] at agree
          | cons next path =>
              rcases oldAlong.exists_inner with ⟨inner, isInner⟩
              cases wasHeld.symm.trans isInner
  | some previous =>
      cases found : Table.find? new name with
      | none =>
          cases path with
          | nil => simp [wasHeld, found] at agree
          | cons next path =>
              rcases newAlong.exists_inner with ⟨inner, isInner⟩
              cases found.symm.trans isInner
      | some value =>
          rw [wasHeld, found] at agree
          exact spares previous value wasHeld found agree

/-- The difference of two values is silent where they agree. -/
theorem spares_difference? {old new : Json} (ordered : new.isOrdered = true)
    (oldAlong : old.HasObjectsAlong path) (newAlong : new.HasObjectsAlong path)
    (agree : old.valueAt? path = new.valueAt? path) : Spares (difference? old new) path := by
  induction path generalizing old new with
  | nil =>
      cases Option.some.inj agree
      rw [difference?_self ordered]
      exact spares_none []
  | cons name path ih =>
      rcases oldAlong.exists_members with ⟨old, rfl⟩
      rcases newAlong.exists_members with ⟨new, rfl⟩
      rw [difference?_object]
      split
      · exact spares_none _
      · have newOrdered := (everywhere_object.mp ordered).1
        apply spares_object (isOrdered_patchMembers newOrdered)
        rw [find?_patchMembers newOrdered]
        refine spares_change? oldAlong newAlong agree ?_
        intro previous value wasHeld found agree
        exact ih (everywhere_find? ordered found) (oldAlong.inner wasHeld) (newAlong.inner found)
          agree

/-- The members of the patch that turns one object into another are silent where the two agree. -/
theorem spares_patchMembers (ordered : isOrdered (.object new) = true)
    (oldAlong : (object old).HasObjectsAlong (name :: path))
    (newAlong : (object new).HasObjectsAlong (name :: path))
    (agree : (object old).valueAt? (name :: path) = (object new).valueAt? (name :: path)) :
    Spares (Table.find? (patchMembers old new) name) path := by
  rw [find?_patchMembers (everywhere_object.mp ordered).1]
  refine spares_change? oldAlong newAlong agree ?_
  intro previous value wasHeld found agree
  exact spares_difference? (everywhere_find? ordered found) (oldAlong.inner wasHeld)
    (newAlong.inner found) agree

section

variable {oldMetadata newMetadata : Table Json} (ordered : isOrdered (.object new) = true)
  (inOld : Table.find? old "metadata" = some (.object oldMetadata))
  (inNew : Table.find? new "metadata" = some (.object newMetadata))

include ordered inOld inNew

/-- Below the version of the old object the patch holds what that version holds. -/
theorem versionedPatch_below (oldOrdered : isOrdered (.object old) = true) {version : Json}
    (found : Table.find? oldMetadata "resourceVersion" = some version)
    (along : (object old).HasObjectsAlong (versionPath ++ path)) :
    Passes (some (versionedPatch (.object old) (.object new))) (versionPath ++ path) ∧
      (versionedPatch (.object old) (.object new)).valueAt? (versionPath ++ path) =
        (object old).valueAt? (versionPath ++ path) := by
  have newOrdered := (everywhere_object.mp ordered).1
  have metadataOrdered := (everywhere_object.mp (everywhere_find? ordered inNew)).1
  have versionOrdered := everywhere_find? (everywhere_find? oldOrdered inOld) found
  have versionAlong : version.HasObjectsAlong path := (along.inner inOld).inner found
  rw [versionedPatch_object newOrdered inOld inNew, found, Option.elim_some]
  constructor
  · refine ⟨Table.isOrdered_insert (isOrdered_patchMembers newOrdered) _ _, ?_⟩
    rw [Table.find?_insert, if_pos rfl]
    refine ⟨Table.isOrdered_insert (isOrdered_patchMembers metadataOrdered) _ _, ?_⟩
    rw [Table.find?_insert, if_pos rfl]
    exact versionAlong.passes versionOrdered
  · simp [versionPath, inOld, found]

/-- Elsewhere the patch is silent where the two objects agree. -/
theorem versionedPatch_spares (oldAlong : (object old).HasObjectsAlong path)
    (newAlong : (object new).HasObjectsAlong path)
    (agree : (object old).valueAt? path = (object new).valueAt? path)
    (notAbove : ¬ path <+: versionPath)
    (elsewhere : versionPath <+: path → Table.find? oldMetadata "resourceVersion" = none) :
    Spares (some (versionedPatch (.object old) (.object new))) path := by
  have newOrdered := (everywhere_object.mp ordered).1
  have metadataOrdered := (everywhere_object.mp (everywhere_find? ordered inNew)).1
  cases path with
  | nil => exact absurd List.nil_prefix notAbove
  | cons name path =>
      have spares := spares_patchMembers ordered oldAlong newAlong agree
      rw [versionedPatch_object newOrdered inOld inNew]
      cases found : Table.find? oldMetadata "resourceVersion" with
      | none => exact spares_object (isOrdered_patchMembers newOrdered) spares
      | some version =>
          apply spares_object (Table.isOrdered_insert (isOrdered_patchMembers newOrdered) _ _)
          rw [Table.find?_insert]
          split
          next isMetadata =>
              subst isMetadata
              cases path with
              | nil => exact absurd ⟨["resourceVersion"], rfl⟩ notAbove
              | cons next path =>
                  have isOther : next ≠ "resourceVersion" := by
                    rintro rfl
                    have isNone := elsewhere ⟨path, rfl⟩
                    cases found.symm.trans isNone
                  rw [valueAt?_cons, valueAt?_cons, inOld, inNew] at agree
                  apply spares_object
                    (Table.isOrdered_insert (isOrdered_patchMembers metadataOrdered) _ _)
                  rw [Table.find?_insert, if_neg isOther]
                  exact spares_patchMembers (everywhere_find? ordered inNew)
                    (oldAlong.inner inOld) (newAlong.inner inNew) agree
          next => exact spares

end

theorem valueAt?_eq_none_of_unversioned {oldMetadata : Table Json}
    (inOld : Table.find? old "metadata" = some (.object oldMetadata))
    (absent : Table.find? oldMetadata "resourceVersion" = none) (path : List String) :
    (object old).valueAt? (versionPath ++ path) = none := by
  simp [versionPath, inOld, absent]

/-- The patch that turns one object into another, applied to any object, leaves the value at the end
of a path as it is if the two agree on it, the path leads through objects in both of them, and it is
not the path to the version or to something that the version is in. Below the version it does so
where the old version holds nothing; what that does hold there is merged into what is found. -/
theorem valueAt?_applyPatch_versionedPatch (old new target : Json) (path : List String)
    (oldOrdered : old.isOrdered = true) (newOrdered : new.isOrdered = true)
    (oldHas : old.hasMetadata = true) (newHas : new.hasMetadata = true)
    (oldAlong : old.HasObjectsAlong path) (newAlong : new.HasObjectsAlong path)
    (agree : old.valueAt? path = new.valueAt? path) (notAbove : ¬ path <+: versionPath) :
    (applyPatch target (versionedPatch old new)).valueAt? path =
      if versionPath <+: path then changed? (target.valueAt? path) (old.valueAt? path)
      else target.valueAt? path := by
  rcases hasMetadata_iff.mp oldHas with ⟨old, oldMetadata, rfl, inOld⟩
  rcases hasMetadata_iff.mp newHas with ⟨new, newMetadata, rfl, inNew⟩
  have applied : some (applyPatch target (versionedPatch (.object old) (.object new))) =
      changed? (some target) (some (versionedPatch (.object old) (.object new))) := by
    rw [versionedPatch_object (everywhere_object.mp newOrdered).1 inOld inNew,
      changed?_some (by simp)]
    rfl
  have reads := congrArg (Option.bind · fun value => value.valueAt? path) applied
  rw [Option.bind_some] at reads
  rw [reads]
  by_cases unversioned : versionPath <+: path → Table.find? oldMetadata "resourceVersion" = none
  · have spares := versionedPatch_spares newOrdered inOld inNew oldAlong newAlong agree notAbove
      unversioned
    rw [changed?_bind_valueAt? spares.passes, spares.silent]
    split
    next below =>
        rcases below with ⟨rest, rfl⟩
        rw [valueAt?_eq_none_of_unversioned inOld (unversioned ⟨rest, rfl⟩)]
        rfl
    next => rfl
  · rw [Classical.not_imp] at unversioned
    rcases unversioned with ⟨⟨rest, rfl⟩, versioned⟩
    rcases Option.ne_none_iff_exists'.mp versioned with ⟨version, found⟩
    rcases versionedPatch_below newOrdered inOld inNew oldOrdered found oldAlong with
      ⟨passes, holds⟩
    rw [changed?_bind_valueAt? passes, Option.bind_some, Option.bind_some, holds,
      if_pos ⟨rest, rfl⟩]

section Bystander

/-- An object with a size and a mode, in a version. -/
def sized (size : Nat) (version : Json) : Json :=
  .object
    [("metadata", .object [("resourceVersion", version)]),
      ("spec", .object [("mode", .text "slow"), ("size", .ofNat size)])]

/-- What has become of it in the meantime. -/
def bystander : Json :=
  .object
    [("metadata", .object [("resourceVersion", .text "9")]),
      ("spec", .object [("mode", .text "fast"), ("owner", .text "b")])]

/-- A patch that changes the size leaves alone that the mode has been changed by somebody else. -/
theorem valueAt?_applyPatch_versionedPatch_mode :
    (applyPatch bystander
        (versionedPatch (sized 1 (.text "7")) (sized 2 (.text "7")))).valueAt? ["spec", "mode"] =
      some (.text "fast") := by
  have keeps := valueAt?_applyPatch_versionedPatch (sized 1 (.text "7")) (sized 2 (.text "7"))
    bystander ["spec", "mode"] (by decide +kernel) (by decide +kernel) (by decide +kernel)
    (by decide +kernel) (by decide +kernel) (by decide +kernel) (by decide +kernel)
    (by decide +kernel)
  rw [keeps, if_neg (by decide +kernel)]
  rfl

/-- A version that is an object is sent as a whole, and so are its members that nobody has changed.
-/
theorem exists_overwritten_in_version : ∃ (held target : Json) (path : List String),
    held.isOrdered = true ∧ held.hasMetadata = true ∧ held.HasObjectsAlong path ∧
      (held.valueAt? path).isSome = true ∧ ¬ path <+: versionPath ∧
      (applyPatch target (versionedPatch held held)).valueAt? path ≠ target.valueAt? path :=
  ⟨sized 1 (.object [("a", .ofNat 1)]), bystander, versionPath ++ ["a"], by decide +kernel⟩

end Bystander

end VolumeAttacher.Json
