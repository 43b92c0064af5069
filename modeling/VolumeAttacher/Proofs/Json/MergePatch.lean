import VolumeAttacher.Json.MergePatch
import VolumeAttacher.Proofs.Json.Ordered

/-!
# Merge patches lead to the new object

What a patch does to a member is a function of that member alone, and so is what the difference
says of it. At each name the one undoes the other, and as tables in order are determined by what is
found in them, the difference of two values leads from the old one to the new one.

A merge patch cannot put a null into an object. This bounds the values that it can reach, and also
the resource versions that a patch can carry without changing them.
-/

namespace VolumeAttacher.Json

variable {old new target : Table Json} {patch : List (String × Json)} {name : String}

/-- Whether no member of an object is null, members of objects inside arrays apart. -/
def lacksNull : Json → Bool :=
  everywhere fun members => members.all fun entry => entry.2 ≠ .null

/-- Whether a value is an object with an object for its metadata. -/
def hasMetadata (object : Json) : Bool :=
  match Table.find? object.members "metadata" with
  | some (.object _) => true
  | _ => false

/-- An object with another resource version in its metadata. -/
def withVersion (object version : Json) : Json :=
  match Table.find? object.members "metadata" with
  | some (.object metadata) =>
      .object (Table.insert object.members "metadata"
        (.object (Table.insert metadata "resourceVersion" version)))
  | _ => object

theorem ne_null_of_find? {value : Json} (lacks : lacksNull (.object new) = true)
    (found : Table.find? new name = some value) : value ≠ .null := by
  have isValue := List.all_eq_true.mp (everywhere_object.mp lacks).1 _ (Table.mem_of_find? found)
  exact of_decide_eq_true isValue

theorem sizeOf_lt_of_find? {value : Json} (found : Table.find? new name = some value) :
    sizeOf value < sizeOf (Json.object new) := by
  have smaller := List.sizeOf_lt_of_mem (Table.mem_of_find? found)
  simp only [Prod.mk.sizeOf_spec, Json.object.sizeOf_spec] at smaller ⊢
  omega

/-- What a patch makes of a member, from what it says of it. -/
def changed? (held : Option Json) : Option Json → Option Json
  | none => held
  | some .null => none
  | some change => some (applyPatch (held.getD .null) change)

theorem changed?_some {held : Option Json} {change : Json} (isValue : change ≠ .null) :
    changed? held (some change) = some (applyPatch (held.getD .null) change) := by
  unfold changed?
  split
  next absent => contradiction
  next isNull =>
      cases isNull
      contradiction
  next same =>
      cases same
      rfl

theorem applyMembers_cons {change : Json} :
    applyMembers target ((name, change) :: patch) =
      applyMembers (if change = .null then Table.erase target name
        else Table.insert target name
          (applyPatch ((Table.find? target name).getD .null) change)) patch := by
  cases change <;> rfl

/-- A patch in order acts on each name by itself. -/
theorem find?_applyMembers (ordered : Table.isOrdered patch = true) (name : String) :
    Table.find? (applyMembers target patch) name =
      changed? (Table.find? target name) (Table.find? patch name) := by
  induction patch generalizing target with
  | nil => rfl
  | cons entry rest ih =>
      rcases entry with ⟨key, change⟩
      rcases Table.isOrdered_cons.mp ordered with ⟨first, restOrdered⟩
      rw [applyMembers_cons, ih restOrdered, Table.find?_cons]
      by_cases isKey : name = key
      · subst isKey
        rw [Table.find?_eq_none_of_lt first, if_pos rfl]
        by_cases isNull : change = .null
        · rw [if_pos isNull, Table.find?_erase, if_pos rfl, isNull]
          rfl
        · rw [if_neg isNull, Table.find?_insert, if_pos rfl, changed?_some isNull]
          rfl
      · rw [if_neg isKey]
        split <;> simp [isKey]

theorem isOrdered_applyMembers (ordered : Table.isOrdered target = true) :
    Table.isOrdered (applyMembers target patch) = true := by
  induction patch generalizing target with
  | nil => exact ordered
  | cons entry rest ih =>
      rw [applyMembers_cons]
      apply ih
      split
      · exact Table.isOrdered_erase ordered _
      · exact Table.isOrdered_insert ordered _ _

/-- A value without nulls, applied to nothing or to itself, is what comes out. Its members are
applied to nothing or to themselves, as the whole is. -/
theorem applyPatch_eq_self {base value : Json} (isBase : base.members = [] ∨ base = value)
    (ordered : value.isOrdered = true) (lacks : value.lacksNull = true) :
    applyPatch base value = value := by
  cases value with
  | object members =>
      rcases everywhere_object.mp ordered with ⟨membersOrdered, -⟩
      have baseOrdered : Table.isOrdered base.members = true := by
        rcases isBase with nothing | rfl
        · rw [nothing]
          rfl
        · exact membersOrdered
      rw [applyPatch, object.injEq]
      refine Table.eq_of_find?_eq (isOrdered_applyMembers baseOrdered) membersOrdered ?_
      intro name
      rw [find?_applyMembers membersOrdered]
      cases found : Table.find? members name with
      | none =>
          rcases isBase with nothing | rfl
          · rw [nothing]
            rfl
          · exact found
      | some value =>
          rw [changed?_some (ne_null_of_find? lacks found), Option.some.injEq]
          have smaller := sizeOf_lt_of_find? found
          refine applyPatch_eq_self ?_ (everywhere_find? ordered found)
            (everywhere_find? lacks found)
          rcases isBase with nothing | rfl
          · rw [nothing]
            exact .inl rfl
          · exact .inr (congrArg (Option.getD · null) found)
  | _ => rfl
termination_by sizeOf value

/-- Only a value without nulls comes out when it is applied to itself. A null would be taken out of
it. -/
theorem lacksNull_of_applyPatch_self {value : Json} (ordered : value.isOrdered = true)
    (same : applyPatch value value = value) : value.lacksNull = true := by
  cases value with
  | object members =>
      rcases everywhere_object.mp ordered with ⟨membersOrdered, valuesOrdered⟩
      rw [applyPatch, object.injEq, Json.members] at same
      have kept : ∀ {name value}, Table.find? members name = some value →
          value ≠ .null ∧ applyPatch value value = value := by
        intro name value found
        have applied : Table.find? (applyMembers members members) name =
            changed? (Table.find? members name) (Table.find? members name) :=
          find?_applyMembers membersOrdered name
        rw [same, found] at applied
        by_cases isNull : value = .null
        · rw [isNull] at applied
          contradiction
        · rw [changed?_some isNull] at applied
          exact ⟨isNull, (Option.some.inj applied).symm⟩
      refine everywhere_object.mpr ⟨List.all_eq_true.mpr ?_, ?_⟩
      · intro entry within
        exact decide_eq_true (kept (Table.find?_of_mem membersOrdered within)).1
      · intro entry within
        have found := Table.find?_of_mem membersOrdered within
        have smaller := sizeOf_lt_of_find? found
        exact lacksNull_of_applyPatch_self (valuesOrdered entry within) (kept found).2
  | _ => rfl
termination_by sizeOf value

theorem changed?_self_iff {value : Json} (ordered : value.isOrdered = true) :
    changed? (some value) (some value) = some value ↔ value ≠ .null ∧ value.lacksNull = true := by
  by_cases isNull : value = .null
  · rw [isNull]
    simp [changed?]
  · rw [changed?_some isNull, Option.some.injEq, Option.getD_some]
    constructor
    · exact fun same => ⟨isNull, lacksNull_of_applyPatch_self ordered same⟩
    · exact fun ⟨_, lacks⟩ => applyPatch_eq_self (.inr rfl) ordered lacks

/-- What a patch has to say of a member, from what it was and what it is to be. -/
def change? : Option Json → Option Json → Option Json
  | none, value => value
  | some _, none => some .null
  | some previous, some value => difference? previous value

/-- The members of the patch that turns one object into another. -/
def patchMembers (old new : Table Json) : Table Json :=
  (removedMembers old new).foldl (fun patch name => Table.insert patch name .null)
    (changedMembers old new)

theorem difference?_object :
    difference? (.object old) (.object new) =
      if (patchMembers old new).isEmpty then none else some (.object (patchMembers old new)) := by
  rw [difference?, patchMembers]

theorem members_difference? :
    ((difference? (.object old) (.object new)).getD (.object [])).members =
      patchMembers old new := by
  rw [difference?_object]
  split
  next isEmpty => exact (List.isEmpty_iff.mp isEmpty).symm
  next => rfl

theorem elim_difference?_object :
    (difference? (.object old) (.object new)).elim (.object old) (applyPatch (.object old)) =
      .object (applyMembers old (patchMembers old new)) := by
  rw [difference?_object]
  split
  next isEmpty =>
      rw [List.isEmpty_iff.mp isEmpty]
      rfl
  next => rfl

theorem difference?_ne_null {previous value change : Json} (isValue : value ≠ .null)
    (isChange : difference? previous value = some change) : change ≠ .null := by
  intro isNull
  subst isNull
  cases value with
  | object members =>
      unfold difference? at isChange
      split at isChange
      · dsimp only at isChange
        split at isChange <;> simp at isChange
      · simp at isChange
  | null => contradiction
  | _ =>
      unfold difference? at isChange
      split at isChange <;> simp at isChange

theorem changedMembers_cons {value : Json} :
    changedMembers old ((name, value) :: patch) =
      ((change? (Table.find? old name) (some value)).map (name, ·)).toList ++
        changedMembers old patch := by
  rw [changedMembers]
  cases Table.find? old name with
  | none => rfl
  | some previous =>
      dsimp only [change?]
      cases difference? previous value <;> rfl

theorem names_changedMembers :
    (Table.names (changedMembers old new)).Sublist (Table.names new) := by
  induction new with
  | nil => exact List.Sublist.refl _
  | cons entry rest ih =>
      rcases entry with ⟨name, value⟩
      rw [changedMembers_cons]
      cases change? (Table.find? old name) (some value) with
      | none => exact ih.cons _
      | some change => exact ih.cons_cons _

theorem find?_changedMembers (ordered : Table.isOrdered new = true) (name : String) :
    Table.find? (changedMembers old new) name =
      (Table.find? new name).bind fun value => change? (Table.find? old name) (some value) := by
  induction new with
  | nil => rfl
  | cons entry rest ih =>
      rcases entry with ⟨key, value⟩
      rcases Table.isOrdered_cons.mp ordered with ⟨first, restOrdered⟩
      have later := ih restOrdered
      rw [changedMembers_cons, Table.find?_cons]
      by_cases isKey : name = key
      · subst isKey
        rw [Table.find?_eq_none_of_lt first] at later
        rw [if_pos rfl, Option.bind_some]
        cases change? (Table.find? old name) (some value) with
        | none => exact later
        | some change => exact (Table.find?_cons ..).trans (if_pos rfl)
      · rw [if_neg isKey, ← later]
        cases change? (Table.find? old key) (some value) with
        | none => rfl
        | some change => exact (Table.find?_cons ..).trans (if_neg isKey)

theorem find?_foldl_insert {names : List String} {value : Json} :
    Table.find? (names.foldl (fun patch name => Table.insert patch name value) target) name =
      if name ∈ names then some value else Table.find? target name := by
  induction names generalizing target with
  | nil => rfl
  | cons first names ih =>
      rw [List.foldl_cons, ih, Table.find?_insert]
      by_cases within : name ∈ names
      · simp [within]
      · simp [within]

theorem isOrdered_foldl_insert {names : List String} {value : Json}
    (ordered : Table.isOrdered target = true) :
    Table.isOrdered
      (names.foldl (fun patch name => Table.insert patch name value) target) = true := by
  induction names generalizing target with
  | nil => exact ordered
  | cons first names ih => exact ih (Table.isOrdered_insert ordered _ _)

theorem mem_removedMembers :
    name ∈ removedMembers old new ↔
      Table.find? old name ≠ none ∧ Table.find? new name = none := by
  rw [removedMembers, List.mem_filter, Ne, Table.find?_eq_none_iff, not_not, Bool.not_eq_true',
    Table.contains, Option.isSome_eq_false_iff, Option.isNone_iff_eq_none]

theorem isOrdered_patchMembers (ordered : Table.isOrdered new = true) :
    Table.isOrdered (patchMembers old new) = true := by
  apply isOrdered_foldl_insert
  rw [Table.isOrdered, decide_eq_true_iff] at ordered ⊢
  exact ordered.sublist names_changedMembers

theorem find?_patchMembers (ordered : Table.isOrdered new = true) (name : String) :
    Table.find? (patchMembers old new) name =
      change? (Table.find? old name) (Table.find? new name) := by
  rw [patchMembers, find?_foldl_insert, find?_changedMembers ordered]
  split
  next removed =>
      rcases mem_removedMembers.mp removed with ⟨wasHeld, isGone⟩
      rw [isGone]
      cases held : Table.find? old name with
      | none => contradiction
      | some previous => rfl
  next kept =>
      cases found : Table.find? new name with
      | some value => rfl
      | none =>
          cases held : Table.find? old name with
          | none => rfl
          | some previous =>
              exact absurd (mem_removedMembers.mpr ⟨by simp [held], found⟩) kept

/-- The change of a member, applied to what it was, makes it what it is to be. -/
theorem changed?_change? (newOrdered : isOrdered (.object new) = true)
    (lacks : lacksNull (.object new) = true)
    (leads : ∀ previous value, Table.find? old name = some previous →
      Table.find? new name = some value →
        (difference? previous value).elim previous (applyPatch previous) = value) :
    changed? (Table.find? old name) (change? (Table.find? old name) (Table.find? new name)) =
      Table.find? new name := by
  cases found : Table.find? new name with
  | none => cases Table.find? old name <;> rfl
  | some value =>
      have isValue := ne_null_of_find? lacks found
      cases wasHeld : Table.find? old name with
      | none =>
          rw [change?, changed?_some isValue, applyPatch_eq_self (.inl rfl)
            (everywhere_find? newOrdered found) (everywhere_find? lacks found)]
      | some previous =>
          have reached := leads previous value wasHeld found
          rw [change?]
          cases isChange : difference? previous value with
          | none =>
              rw [isChange] at reached
              exact congrArg some reached
          | some change =>
              rw [isChange] at reached
              rw [changed?_some (difference?_ne_null isValue isChange)]
              exact congrArg some reached

/-- Applying the difference of two values to the old one yields the new one. -/
theorem applyPatch_difference? {old new : Json} (oldOrdered : old.isOrdered = true)
    (newOrdered : new.isOrdered = true) (lacks : new.lacksNull = true) :
    (difference? old new).elim old (applyPatch old) = new := by
  cases new with
  | object members =>
      cases old with
      | object held =>
          rcases everywhere_object.mp oldOrdered with ⟨heldOrdered, -⟩
          rcases everywhere_object.mp newOrdered with ⟨membersOrdered, -⟩
          rw [elim_difference?_object, object.injEq]
          refine Table.eq_of_find?_eq (isOrdered_applyMembers heldOrdered) membersOrdered ?_
          intro name
          rw [find?_applyMembers (isOrdered_patchMembers membersOrdered),
            find?_patchMembers membersOrdered]
          refine changed?_change? newOrdered lacks ?_
          intro previous value wasHeld found
          have smaller := sizeOf_lt_of_find? found
          exact applyPatch_difference? (everywhere_find? oldOrdered wasHeld)
            (everywhere_find? newOrdered found) (everywhere_find? lacks found)
      | _ => exact applyPatch_eq_self (.inl rfl) newOrdered lacks
  | _ =>
      unfold difference?
      split
      next same => exact same
      next => rfl
termination_by sizeOf new

theorem hasMetadata_iff {object : Json} :
    object.hasMetadata = true ↔
      ∃ members metadata, object = .object members ∧
        Table.find? members "metadata" = some (.object metadata) := by
  constructor
  · intro has
    unfold hasMetadata at has
    split at has
    next metadata found =>
        cases object with
        | object members => exact ⟨members, metadata, rfl, found⟩
        | _ => contradiction
    next => contradiction
  · rintro ⟨members, metadata, rfl, found⟩
    rw [hasMetadata, Json.members, found]

theorem resourceVersion?_object {metadata : Table Json}
    (found : Table.find? target "metadata" = some (.object metadata)) :
    resourceVersion? (.object target) = Table.find? metadata "resourceVersion" := by
  rw [resourceVersion?, Json.members, found]
  rfl

/-- The versioned patch of objects with metadata is their difference, with the old version put
into its metadata. -/
theorem versionedPatch_object {oldMetadata newMetadata : Table Json}
    (newOrdered : Table.isOrdered new = true)
    (inOld : Table.find? old "metadata" = some (.object oldMetadata))
    (inNew : Table.find? new "metadata" = some (.object newMetadata)) :
    versionedPatch (.object old) (.object new) =
      .object ((Table.find? oldMetadata "resourceVersion").elim (patchMembers old new)
        fun version => Table.insert (patchMembers old new) "metadata"
          (.object (Table.insert (patchMembers oldMetadata newMetadata) "resourceVersion"
            version))) := by
  rw [versionedPatch, members_difference?, resourceVersion?_object inOld]
  cases Table.find? oldMetadata "resourceVersion" with
  | none => rfl
  | some version =>
      have inPatch : ((Table.find? (patchMembers old new) "metadata").getD (.object [])) =
          .object (patchMembers oldMetadata newMetadata) := by
        rw [find?_patchMembers newOrdered, inOld, inNew, change?, difference?_object]
        split
        next isEmpty =>
            rw [List.isEmpty_iff.mp isEmpty]
            rfl
        next => rfl
      dsimp only [Option.elim_some]
      rw [inPatch]

theorem withVersion_object {metadata : Table Json} {version : Json}
    (found : Table.find? target "metadata" = some (.object metadata)) :
    withVersion (.object target) version =
      .object (Table.insert target "metadata"
        (.object (Table.insert metadata "resourceVersion" version))) := by
  rw [withVersion, Json.members, found]

section

variable (oldOrdered : isOrdered (.object old) = true)
  (newOrdered : isOrdered (.object new) = true) (lacks : lacksNull (.object new) = true)

include oldOrdered newOrdered lacks

/-- What becomes of each member under a difference with one more member set in it. -/
theorem find?_applyMembers_insert (name : String) (change : Json) (other : String) :
    Table.find? (applyMembers old (Table.insert (patchMembers old new) name change)) other =
      if other = name then changed? (Table.find? old name) (some change)
      else Table.find? new other := by
  rcases everywhere_object.mp newOrdered with ⟨membersOrdered, -⟩
  have patchOrdered : Table.isOrdered (patchMembers old new) = true :=
    isOrdered_patchMembers membersOrdered
  rw [find?_applyMembers (Table.isOrdered_insert patchOrdered _ _), Table.find?_insert]
  split
  next isName => rw [isName]
  next =>
      rw [find?_patchMembers membersOrdered]
      refine changed?_change? newOrdered lacks ?_
      intro previous value wasHeld found
      exact applyPatch_difference? (everywhere_find? oldOrdered wasHeld)
        (everywhere_find? newOrdered found) (everywhere_find? lacks found)

/-- A difference with one more member set in it leads to the new object with that member set, as
long as the one leads to the other. -/
theorem applyMembers_insert_iff {change value : Json} :
    applyMembers old (Table.insert (patchMembers old new) name change) =
        Table.insert new name value ↔
      changed? (Table.find? old name) (some change) = some value := by
  have found := find?_applyMembers_insert oldOrdered newOrdered lacks name change
  constructor
  · intro leads
    rw [leads] at found
    have atName := found name
    rw [Table.find?_insert, if_pos rfl, if_pos rfl] at atName
    exact atName.symm
  · intro isValue
    refine Table.eq_of_find?_eq (isOrdered_applyMembers (everywhere_object.mp oldOrdered).1)
      (Table.isOrdered_insert (everywhere_object.mp newOrdered).1 _ _) ?_
    intro other
    rw [found, Table.find?_insert, isValue]

end

/-- The versioned patch leads to the new object in the old version exactly if no part of that
version is null, and it carries the old version whatever that is. -/
theorem applyPatch_versionedPatch_iff (old new : Json) (oldOrdered : old.isOrdered = true)
    (newOrdered : new.isOrdered = true) (oldHas : old.hasMetadata = true)
    (newHas : new.hasMetadata = true) (lacks : new.lacksNull = true) :
    (applyPatch old (versionedPatch old new) =
        (resourceVersion? old).elim new new.withVersion ↔
      ∀ version, resourceVersion? old = some version →
        version ≠ .null ∧ version.lacksNull = true) ∧
    ∀ version, resourceVersion? old = some version →
      resourceVersion? (versionedPatch old new) = some version := by
  rcases hasMetadata_iff.mp oldHas with ⟨old, oldMetadata, rfl, inOld⟩
  rcases hasMetadata_iff.mp newHas with ⟨new, newMetadata, rfl, inNew⟩
  have oldMetadataOrdered := everywhere_find? oldOrdered inOld
  rw [versionedPatch_object (everywhere_object.mp newOrdered).1 inOld inNew,
    resourceVersion?_object inOld]
  cases inOldMetadata : Table.find? oldMetadata "resourceVersion" with
  | none =>
      refine ⟨iff_of_true ?_ (by simp), by simp⟩
      have leads := applyPatch_difference? oldOrdered newOrdered lacks
      rw [elim_difference?_object] at leads
      exact leads
  | some version =>
      simp only [Option.elim_some, Option.some.injEq, forall_eq']
      constructor
      · rw [withVersion_object inNew, applyPatch, object.injEq, Json.members,
          applyMembers_insert_iff oldOrdered newOrdered lacks, inOld, changed?_some (by simp),
          Option.some.injEq, Option.getD_some, applyPatch, object.injEq, Json.members,
          applyMembers_insert_iff oldMetadataOrdered (everywhere_find? newOrdered inNew)
            (everywhere_find? lacks inNew), inOldMetadata,
          changed?_self_iff (everywhere_find? oldMetadataOrdered inOldMetadata)]
      · have inPatch := Table.find?_insert (patchMembers old new) "metadata" "metadata"
          (.object (Table.insert (patchMembers oldMetadata newMetadata) "resourceVersion" version))
        rw [if_pos rfl] at inPatch
        rw [resourceVersion?_object inPatch, Table.find?_insert, if_pos rfl]

/-- An object in a version. -/
def versioned (version : Json) : Json :=
  .object [("metadata", .object [("resourceVersion", version)]), ("spec", .object [])]

/-- A later state of it: some labels, no specification, and without its version. -/
def unversioned : Json :=
  .object [("metadata", .object [("labels", .object [("zone", .text "a")])])]

theorem applyPatch_versionedPatch_text :
    applyPatch (versioned (.text "7")) (versionedPatch (versioned (.text "7")) unversioned) =
        unversioned.withVersion (.text "7") ∧
      resourceVersion? (versionedPatch (versioned (.text "7")) unversioned) =
        some (.text "7") := by
  have leads := applyPatch_versionedPatch_iff (versioned (.text "7")) unversioned
    (by decide +kernel) (by decide +kernel) (by decide +kernel) (by decide +kernel)
    (by decide +kernel)
  refine ⟨leads.1.mpr ?_, leads.2 _ rfl⟩
  rintro _ ⟨⟩
  decide +kernel

/-- A version with a null in it is carried by the patch, but it is not what the patch leads to. -/
theorem applyPatch_versionedPatch_ne :
    resourceVersion? (versioned (.object [("a", .null)])) = some (.object [("a", .null)]) ∧
      (versioned (.object [("a", .null)])).isOrdered = true ∧
      (versioned (.object [("a", .null)])).hasMetadata = true ∧
      unversioned.isOrdered = true ∧ unversioned.hasMetadata = true ∧
      unversioned.lacksNull = true ∧
      applyPatch (versioned (.object [("a", .null)]))
          (versionedPatch (versioned (.object [("a", .null)])) unversioned) ≠
        unversioned.withVersion (.object [("a", .null)]) := by
  decide +kernel

end VolumeAttacher.Json
