import Mathlib.Data.List.Nodup
import VolumeAttacher.Proofs.Cluster.Writes

/-!
# The versions of objects

A `Chronicle` holds the stored objects of one kind with all versions that have been stored under
each name, the oldest first. The store keeps its contract: a write is refused unless the stored
object is in the version that the write was computed from, and each write makes a new version. So
whatever version of an object a write was computed from, if it is accepted, that is the stored one.
-/

namespace VolumeAttacher

structure Chronicle (α : Type) where
  objects : Table α
  past : String → List α

namespace Chronicle

variable {α : Type} [Versioned α]

/-- Whether an object is one of the versions that have been stored under its name. -/
def IsPast (chronicle : Chronicle α) (object : α) : Prop :=
  object ∈ chronicle.past (Versioned.name object)

/-- Whether a chronicle is in order: what is stored is the last version of its name, and no two
versions of a name are the same. -/
structure IsKept (chronicle : Chronicle α) : Prop where
  current : ∀ {name object}, Table.find? chronicle.objects name = some object →
    (chronicle.past name).getLast? = some object
  named : ∀ {name object}, object ∈ chronicle.past name → Versioned.name object = name
  distinct : ∀ name, ((chronicle.past name).map Versioned.version).Nodup

/-- Whether a chronicle is another one with a new version stored under a name. -/
structure Gains (before : Chronicle α) (name : String) (written : α) (after : Chronicle α) :
    Prop where
  stores : before.objects.Stores name written after.objects
  fresh : Versioned.version written ∉ (before.past name).map Versioned.version
  past : ∀ other, after.past other =
    if other = name then before.past name ++ [written] else before.past other

/-- What may become of a write, which makes a new version if it is accepted. -/
abbrev Written (before : Chronicle α) (old : α) (content : α → α) :
    Except Failure α → Chronicle α → Prop :=
  Versioned.Written before (Table.find? before.objects (Versioned.name old))
    (before.Gains (Versioned.name old)) old content

/-- A write under a name is refused and changes nothing, or it makes an edit of the object that is
stored there. -/
inductive Renewed (before : Chronicle α) (name : String) (edit : α → α → Prop) :
    Except Failure α → Chronicle α → Prop
  | refused (failure : Failure) : Renewed before name edit (.error failure) before
  | edited {stored written : α} {after : Chronicle α}
      (found : Table.find? before.objects name = some stored) (edits : edit stored written)
      (stores : before.objects.Stores name written after.objects) :
      Renewed before name edit (.ok written) after

/-- A change by others. What they write meets a condition that depends on what is stored under the
name, and what they drop meets another one. -/
inductive Changed (before : Chronicle α) (writable : Option α → α → Prop) (droppable : α → Prop) :
    Chronicle α → Prop
  | written {object : α} {after : Chronicle α}
      (gains : before.Gains (Versioned.name object) object after)
      (writes : writable (Table.find? before.objects (Versioned.name object)) object) :
      Changed before writable droppable after
  | dropped {name : String}
      (drops : ∀ stored, Table.find? before.objects name = some stored → droppable stored) :
      Changed before writable droppable
        { before with objects := Table.erase before.objects name }

variable {chronicle before after : Chronicle α} {name : String} {old written object : α}
  {content : α → α} {answer : Except Failure α} {writable : Option α → α → Prop}
  {droppable : α → Prop}

theorem IsKept.isPast (kept : chronicle.IsKept) (known : object ∈ chronicle.past name) :
    chronicle.IsPast object := by
  cases kept.named known
  exact known

theorem IsKept.name_eq (kept : chronicle.IsKept)
    (found : Table.find? chronicle.objects name = some object) : Versioned.name object = name :=
  kept.named (List.mem_of_getLast? (kept.current found))

theorem Gains.isKept (gains : before.Gains name written after) (kept : before.IsKept)
    (named : Versioned.name written = name) : after.IsKept where
  current := by
    intro other object found
    rw [gains.past]
    rcases gains.stores.eq_or_find? found with ⟨rfl, rfl⟩ | ⟨different, foundBefore⟩
    · simp
    · rw [if_neg different]
      exact kept.current foundBefore
  named := by
    intro other object known
    rw [gains.past] at known
    split at known
    next same =>
        rcases List.mem_append.mp known with knownBefore | isNew
        · rw [same]
          exact kept.named knownBefore
        · rw [List.mem_singleton.mp isNew, same]
          exact named
    next => exact kept.named known
  distinct := by
    intro other
    rw [gains.past]
    split
    · have apart : ∀ version ∈ (before.past name).map Versioned.version,
          version ≠ Versioned.version written := by
        rintro _ known rfl
        exact gains.fresh known
      rw [List.map_append, List.nodup_append]
      refine ⟨kept.distinct name, by simp, ?_⟩
      intro version known other otherMem
      rw [List.map_singleton, List.mem_singleton] at otherMem
      rw [otherMem]
      exact apart version known
    · exact kept.distinct other

/-- The versions of a name only grow. -/
theorem Gains.prefix_past (gains : before.Gains name written after) (other : String) :
    before.past other <+: after.past other := by
  rw [gains.past]
  split
  next same =>
      rw [same]
      exact List.prefix_append _ _
  next => exact List.prefix_rfl

theorem Gains.mem_past (gains : before.Gains name written after) : written ∈ after.past name := by
  rw [gains.past, if_pos rfl]
  exact List.mem_append_right _ List.mem_cons_self

/-- What has been stored at some time is stored now only if it was before. -/
theorem Gains.find?_of_isPast (gains : before.Gains name written after)
    (isPast : before.IsPast object)
    (found : Table.find? after.objects (Versioned.name object) = some object) :
    Table.find? before.objects (Versioned.name object) = some object := by
  rcases gains.stores.eq_or_find? found with ⟨same, rfl⟩ | ⟨_, foundBefore⟩
  · rw [IsPast, same] at isPast
    exact absurd (List.mem_map_of_mem isPast) gains.fresh
  · exact foundBefore

/-- A single object in its first version. -/
def single (object : α) : Chronicle α where
  objects := [(Versioned.name object, object)]
  past name := if name = Versioned.name object then [object] else []

theorem of_find?_single (found : Table.find? (single object).objects name = some written) :
    name = Versioned.name object ∧ written = object := by
  by_cases same : name = Versioned.name object
  · simp_all [single, Table.find?_cons]
  · simp [single, Table.find?_cons, same] at found

theorem single_isKept (object : α) : (single object).IsKept where
  current := by
    intro name other found
    rcases of_find?_single found with ⟨rfl, rfl⟩
    simp [single]
  named := by
    intro name other known
    by_cases same : name = Versioned.name object
    · simp_all [single]
    · simp [single, same] at known
  distinct := by
    intro name
    simp only [single]
    split <;> simp

/-- A chronicle with a new version of an object. -/
def store (chronicle : Chronicle α) (object : α) : Chronicle α where
  objects := Table.insert chronicle.objects (Versioned.name object) object
  past other :=
    if other = Versioned.name object then chronicle.past (Versioned.name object) ++ [object]
    else chronicle.past other

theorem gains_store
    (fresh : Versioned.version object ∉
      (chronicle.past (Versioned.name object)).map Versioned.version) :
    chronicle.Gains (Versioned.name object) object (chronicle.store object) where
  stores := Table.stores_insert _ _ _
  fresh := fresh
  past _ := rfl

/-- Writes an object that is computed from the stored one, in a given version if it is a new one. -/
def write (chronicle : Chronicle α) (old : α) (content : α → α) (version : String) :
    Except Failure α × Chronicle α :=
  match Table.find? chronicle.objects (Versioned.name old) with
  | none => (.error (.conflict (Versioned.name old)), chronicle)
  | some stored =>
      let written := Versioned.stamped (content stored) version
      if Versioned.version stored = Versioned.version old ∧
          Versioned.name written = Versioned.name old ∧
          ∀ other ∈ chronicle.past (Versioned.name written),
            Versioned.version other ≠ Versioned.version written then
        (.ok written, chronicle.store written)
      else (.error (.conflict (Versioned.name old)), chronicle)

theorem write_written (chronicle : Chronicle α) (old : α) (content : α → α) (version : String) :
    chronicle.Written old content (chronicle.write old content version).1
      (chronicle.write old content version).2 := by
  unfold write
  split
  · exact .refused _
  next stored found =>
      dsimp only
      split
      next accepted =>
          rcases accepted with ⟨sameVersion, sameName, different⟩
          have fresh : Versioned.version (Versioned.stamped (content stored) version) ∉
              (chronicle.past (Versioned.name (Versioned.stamped (content stored) version))).map
                Versioned.version := by
            intro known
            rcases List.mem_map.mp known with ⟨other, otherMem, same⟩
            exact different other otherMem same
          exact .accepted found sameVersion (sameName ▸ gains_store fresh)
      next => exact .refused _

theorem Changed.isKept (changed : before.Changed writable droppable after)
    (kept : before.IsKept) : after.IsKept := by
  cases changed with
  | written gains writes => exact gains.isKept kept rfl
  | dropped drops =>
      refine ⟨?_, kept.named, kept.distinct⟩
      intro other object found
      rw [Table.find?_erase] at found
      split at found
      · contradiction
      · exact kept.current found

theorem Changed.prefix_past (changed : before.Changed writable droppable after) (name : String) :
    before.past name <+: after.past name := by
  cases changed with
  | written gains writes => exact gains.prefix_past name
  | dropped drops => exact List.prefix_rfl

theorem Changed.isPast (changed : before.Changed writable droppable after)
    (isPast : before.IsPast object) : after.IsPast object :=
  (changed.prefix_past _).subset isPast

theorem Changed.find?_of_isPast (changed : before.Changed writable droppable after)
    (isPast : before.IsPast object)
    (found : Table.find? after.objects (Versioned.name object) = some object) :
    Table.find? before.objects (Versioned.name object) = some object := by
  cases changed with
  | written gains writes => exact gains.find?_of_isPast isPast found
  | dropped drops =>
      rw [Table.find?_erase] at found
      split at found
      · contradiction
      · exact found

/-- A write that is accepted was computed from the stored object, if it was from some version. -/
theorem IsKept.eq_of_version_eq {stored : α} (kept : chronicle.IsKept)
    (isPast : chronicle.IsPast old)
    (found : Table.find? chronicle.objects (Versioned.name old) = some stored)
    (sameVersion : Versioned.version stored = Versioned.version old) : stored = old :=
  List.inj_on_of_nodup_map (kept.distinct _) (List.mem_of_getLast? (kept.current found)) isPast
    sameVersion

/-- A write that was computed from some version edits the stored object as it edits this version. -/
theorem Written.renewed {edit : α → α → Prop}
    (written : before.Written old content answer after) (kept : before.IsKept)
    (isPast : before.IsPast old)
    (edits : ∀ version, edit old (Versioned.stamped (content old) version)) :
    before.Renewed (Versioned.name old) edit answer after := by
  cases written with
  | refused failure => exact .refused failure
  | @accepted stored version _ found sameVersion gains =>
      cases kept.eq_of_version_eq isPast found sameVersion
      exact .edited found (edits version) gains.stores

/-- A write that was computed from some version changes the stored object only if it is this one. -/
theorem Written.find?_or_eq (written : before.Written old content answer after)
    (kept : before.IsKept) (isPast : before.IsPast old)
    (found : Table.find? before.objects name = some object) :
    Table.find? after.objects name = some object ∨
      object = old ∧ ∃ version,
        before.objects.Stores name (Versioned.stamped (content old) version) after.objects := by
  cases written with
  | refused failure => exact .inl found
  | @accepted stored version _ foundOld sameVersion gains =>
      cases kept.eq_of_version_eq isPast foundOld sameVersion
      by_cases same : name = Versioned.name old
      · rw [same] at found ⊢
        exact .inr ⟨Option.some.inj (found.symm.trans foundOld), version, gains.stores⟩
      · exact .inl ((gains.stores.others _ same).trans found)

/-- What a write that was computed from some version returns. -/
theorem Written.eq_stamped (written : before.Written old content answer after)
    (kept : before.IsKept) (isPast : before.IsPast old) (isOk : answer = .ok object) :
    ∃ version, object = Versioned.stamped (content old) version := by
  cases written with
  | refused failure => contradiction
  | @accepted stored version _ found sameVersion gains =>
      cases kept.eq_of_version_eq isPast found sameVersion
      cases isOk
      exact ⟨version, rfl⟩

/-- What is computed from the stored object has its name if the content keeps names. -/
theorem IsKept.name_stamped {stored : α} (kept : chronicle.IsKept)
    (keepsName : ∀ stored, Versioned.name stored = Versioned.name old →
      Versioned.name (content stored) = Versioned.name old)
    (found : Table.find? chronicle.objects (Versioned.name old) = some stored)
    (version : String) :
    Versioned.name (Versioned.stamped (content stored) version) = Versioned.name old := by
  rw [Versioned.name_stamped]
  exact keepsName _ (kept.name_eq found)

/-- A write under the name that the content has keeps a chronicle in order. -/
theorem Written.isKept (written : before.Written old content answer after) (kept : before.IsKept)
    (keepsName : ∀ stored, Versioned.name stored = Versioned.name old →
      Versioned.name (content stored) = Versioned.name old) : after.IsKept := by
  cases written with
  | refused failure => exact kept
  | @accepted stored version _ found sameVersion gains =>
      exact gains.isKept kept (kept.name_stamped keepsName found version)

theorem Written.isPast (written : before.Written old content answer after)
    (isPast : before.IsPast object) : after.IsPast object := by
  cases written with
  | refused failure => exact isPast
  | accepted found sameVersion gains => exact (gains.prefix_past _).subset isPast

theorem Written.find?_of_isPast (written : before.Written old content answer after)
    (isPast : before.IsPast object)
    (found : Table.find? after.objects (Versioned.name object) = some object) :
    Table.find? before.objects (Versioned.name object) = some object := by
  cases written with
  | refused failure => exact found
  | accepted _ sameVersion gains => exact gains.find?_of_isPast isPast found

theorem Written.isPast_answer (written : before.Written old content answer after)
    (kept : before.IsKept)
    (keepsName : ∀ stored, Versioned.name stored = Versioned.name old →
      Versioned.name (content stored) = Versioned.name old)
    (isOk : answer = .ok object) : after.IsPast object := by
  cases written with
  | refused failure => contradiction
  | @accepted stored version _ found sameVersion gains =>
      cases isOk
      rw [IsPast, kept.name_stamped keepsName found version]
      exact gains.mem_past

end Chronicle

end VolumeAttacher
