import Mathlib.Data.String.Basic
import VolumeAttacher.Json.Parser

/-!
# Tables and objects in order

A table lists its entries in the strict order of their names, and so it is determined by what it
finds under each name. A law on tables may hold of all objects of a JSON value, those inside arrays
apart; that they are in order is one of these laws, and the reader sees to it.
-/

namespace VolumeAttacher

namespace Table

universe u

variable {α : Type u} {table other : Table α} {name : String} {value : α}

/-- Whether the entries are in the strict order of their names. -/
def isOrdered (table : Table α) : Bool :=
  decide (table.names.Pairwise (· < ·))

theorem isOrdered_nil : isOrdered ([] : Table α) = true := rfl

theorem isOrdered_cons {rest : Table α} :
    isOrdered ((name, value) :: rest) = true ↔
      (∀ other ∈ rest.names, name < other) ∧ rest.isOrdered = true := by
  rw [isOrdered, isOrdered, decide_eq_true_iff, decide_eq_true_iff, names, List.map_cons,
    List.pairwise_cons, names]

theorem find?_eq_none_iff : find? table name = none ↔ name ∉ table.names := by
  induction table with
  | nil => simp [names]
  | cons entry rest ih =>
      rcases entry with ⟨key, value⟩
      rw [find?_cons]
      split
      next same => simp [names, same]
      next other =>
          rw [ih]
          simp [names, other]

theorem contains_iff : contains table name = true ↔ name ∈ table.names := by
  rw [contains, Option.isSome_iff_ne_none, Ne, find?_eq_none_iff, not_not]

theorem mem_of_find? (found : find? table name = some value) : (name, value) ∈ table := by
  induction table with
  | nil => contradiction
  | cons entry rest ih =>
      rcases entry with ⟨key, held⟩
      rw [find?_cons] at found
      split at found
      next same =>
          cases found
          rw [same]
          exact List.mem_cons_self
      next => exact List.mem_cons_of_mem _ (ih found)

theorem find?_of_mem (ordered : table.isOrdered = true) (within : (name, value) ∈ table) :
    find? table name = some value := by
  induction table with
  | nil => contradiction
  | cons entry rest ih =>
      rcases entry with ⟨key, held⟩
      rcases isOrdered_cons.mp ordered with ⟨first, restOrdered⟩
      rw [find?_cons]
      rcases List.mem_cons.mp within with same | within
      · cases same
        exact if_pos rfl
      · rw [if_neg (first name (List.mem_map_of_mem within)).ne']
        exact ih restOrdered within

/-- A name that comes before all others is not among them. -/
theorem find?_eq_none_of_lt (before : ∀ other ∈ table.names, name < other) :
    find? table name = none :=
  find?_eq_none_iff.mpr fun within => lt_irrefl name (before name within)

/-- Tables in order that find the same are the same. A smaller first name would not be found in the
other table. -/
theorem eq_of_find?_eq (ordered : table.isOrdered = true) (otherOrdered : other.isOrdered = true)
    (same : ∀ name, find? table name = find? other name) : table = other := by
  induction table generalizing other with
  | nil =>
      cases other with
      | nil => rfl
      | cons entry rest =>
          have found := same entry.1
          rw [find?_cons, if_pos rfl] at found
          contradiction
  | cons entry rest ih =>
      rcases entry with ⟨key, value⟩
      rcases isOrdered_cons.mp ordered with ⟨first, restOrdered⟩
      cases other with
      | nil =>
          have found := same key
          rw [find?_cons, if_pos rfl] at found
          contradiction
      | cons otherEntry otherRest =>
          rcases otherEntry with ⟨otherKey, otherValue⟩
          rcases isOrdered_cons.mp otherOrdered with ⟨otherFirst, otherRestOrdered⟩
          have sameKey : key = otherKey := by
            rcases lt_trichotomy key otherKey with smaller | sameKey | greater
            · have found := same key
              rw [find?_cons, if_pos rfl, find?_cons, if_neg smaller.ne, find?_eq_none_of_lt]
                at found
              · contradiction
              · exact fun name within => smaller.trans (otherFirst name within)
            · exact sameKey
            · have found := same otherKey
              rw [find?_cons, if_neg greater.ne, find?_cons, if_pos rfl, find?_eq_none_of_lt]
                at found
              · contradiction
              · exact fun name within => greater.trans (first name within)
          subst sameKey
          have sameValue : value = otherValue := by
            have found := same key
            rwa [find?_cons, if_pos rfl, find?_cons, if_pos rfl, Option.some.injEq] at found
          subst sameValue
          congr 1
          apply ih restOrdered otherRestOrdered
          intro name
          by_cases isKey : name = key
          · rw [isKey, find?_eq_none_of_lt first, find?_eq_none_of_lt otherFirst]
          · have found := same name
            rwa [find?_cons, if_neg isKey, find?_cons, if_neg isKey] at found

theorem mem_names_insert {key : String} :
    key ∈ (insert table name value).names ↔ key = name ∨ key ∈ table.names := by
  rw [← contains_iff, ← contains_iff, contains, contains, find?_insert]
  split
  next same => simp [same]
  next other => simp [other]

theorem isOrdered_insert (ordered : table.isOrdered = true) (name : String) (value : α) :
    (insert table name value).isOrdered = true := by
  induction table with
  | nil => rfl
  | cons entry rest ih =>
      rcases entry with ⟨key, held⟩
      rcases isOrdered_cons.mp ordered with ⟨first, restOrdered⟩
      unfold insert
      split
      next same => exact isOrdered_cons.mpr ⟨same ▸ first, restOrdered⟩
      next other =>
          split
          next before =>
              refine isOrdered_cons.mpr ⟨?_, ordered⟩
              intro later within
              rcases List.mem_cons.mp within with rfl | within
              · exact before
              · exact before.trans (first later within)
          next notBefore =>
              refine isOrdered_cons.mpr ⟨?_, ih restOrdered⟩
              intro later within
              rcases mem_names_insert.mp within with rfl | within
              · exact lt_of_le_of_ne (not_lt.mp notBefore) (Ne.symm other)
              · exact first later within

theorem isOrdered_erase (ordered : table.isOrdered = true) (name : String) :
    (erase table name).isOrdered = true := by
  rw [isOrdered, decide_eq_true_iff] at ordered ⊢
  exact ordered.sublist (List.Sublist.map _ List.filter_sublist)

theorem isOrdered_ofList (entries : List (String × α)) : (ofList entries).isOrdered = true := by
  suffices ∀ table : Table α, table.isOrdered = true →
      (entries.foldl (fun table entry => insert table entry.1 entry.2) table).isOrdered = true
    from this [] rfl
  induction entries with
  | nil => exact fun table ordered => ordered
  | cons entry entries ih => exact fun table ordered => ih _ (isOrdered_insert ordered _ _)

/-- Inserting what comes after all names appends it. -/
theorem insert_of_lt (after : ∀ other ∈ table.names, other < name) (value : α) :
    insert table name value = table ++ [(name, value)] := by
  induction table with
  | nil => rfl
  | cons entry rest ih =>
      rcases entry with ⟨key, held⟩
      have greater : key < name := after key List.mem_cons_self
      rw [insert, if_neg greater.ne', if_neg greater.not_gt,
        ih fun other within => after other (List.mem_cons_of_mem _ within), List.cons_append]

/-- The table of the entries of a table in order is that table. -/
theorem ofList_eq_self (ordered : table.isOrdered = true) : ofList table = table := by
  rw [isOrdered, decide_eq_true_iff] at ordered
  suffices ∀ before : Table α, (names (before ++ table)).Pairwise (· < ·) →
      table.foldl (fun table entry => insert table entry.1 entry.2) before = before ++ table
    from this [] ordered
  clear ordered
  induction table with
  | nil => simp
  | cons entry rest ih =>
      intro before ordered
      have inserted : insert before entry.1 entry.2 = before ++ [entry] := by
        apply insert_of_lt
        intro other within
        rw [names, List.map_append] at ordered
        exact (List.pairwise_append.mp ordered).2.2 other within _ List.mem_cons_self
      rw [List.foldl_cons, inserted, ih _ (by simpa using ordered), List.append_assoc,
        List.singleton_append]

theorem mem_insert {entry : String × α} (within : entry ∈ insert table name value) :
    entry = (name, value) ∨ entry ∈ table := by
  induction table with
  | nil => exact .inl (List.mem_singleton.mp within)
  | cons first rest ih =>
      rcases first with ⟨key, held⟩
      unfold insert at within
      split at within
      · rcases List.mem_cons.mp within with isNew | within
        · exact .inl isNew
        · exact .inr (List.mem_cons_of_mem _ within)
      · split at within
        · exact List.mem_cons.mp within
        · rcases List.mem_cons.mp within with rfl | within
          · exact .inr List.mem_cons_self
          · exact (ih within).imp_right (List.mem_cons_of_mem _)

theorem mem_ofList {entries : List (String × α)} {entry : String × α}
    (within : entry ∈ ofList entries) : entry ∈ entries := by
  suffices ∀ table : Table α,
      entry ∈ entries.foldl (fun table entry => insert table entry.1 entry.2) table →
      entry ∈ table ∨ entry ∈ entries from (this [] within).resolve_left (by simp)
  clear within
  induction entries with
  | nil => exact fun table within => .inl within
  | cons first entries ih =>
      intro table within
      rcases ih _ within with within | within
      · rcases mem_insert within with rfl | within
        · exact .inr List.mem_cons_self
        · exact .inl within
      · exact .inr (List.mem_cons_of_mem _ within)

end Table

namespace Json

mutual

/-- Whether a law holds of the members of all objects of a value, those inside arrays apart. -/
def everywhere (law : Table Json → Bool) : Json → Bool
  | .object members => law members && everywhereWithin law members
  | _ => true

/-- Whether a law holds everywhere in the values of members. -/
def everywhereWithin (law : Table Json → Bool) : List (String × Json) → Bool
  | [] => true
  | (_, value) :: rest => everywhere law value && everywhereWithin law rest

end

/-- Whether all objects have their members in order. -/
def isOrdered : Json → Bool :=
  everywhere Table.isOrdered

variable {law : Table Json → Bool} {members : List (String × Json)}

theorem everywhereWithin_iff :
    everywhereWithin law members = true ↔ ∀ entry ∈ members, everywhere law entry.2 = true := by
  induction members with
  | nil => simp [everywhereWithin]
  | cons entry rest ih =>
      rcases entry with ⟨name, value⟩
      simp [everywhereWithin, ih]

theorem everywhere_object :
    everywhere law (.object members) = true ↔
      law members = true ∧ ∀ entry ∈ members, everywhere law entry.2 = true := by
  rw [everywhere, Bool.and_eq_true, everywhereWithin_iff]

/-- A law that holds everywhere in an object holds everywhere in what is found in it. -/
theorem everywhere_find? {name : String} {value : Json}
    (holds : everywhere law (.object members) = true)
    (found : Table.find? members name = some value) : everywhere law value = true :=
  (everywhere_object.mp holds).2 _ (Table.mem_of_find? found)

theorem isOrdered_ofMembers (ordered : ∀ entry ∈ members, isOrdered entry.2 = true) :
    (ofMembers members).isOrdered = true :=
  everywhere_object.mpr
    ⟨Table.isOrdered_ofList members, fun entry within => ordered entry (Table.mem_ofList within)⟩

theorem Reader.isOrdered_value? (fuel : Nat) :
    (∀ {input value rest}, value? fuel input = some (value, rest) → value.isOrdered = true) ∧
      ∀ {input members rest}, members? fuel input = some (members, rest) →
        ∀ entry ∈ members, isOrdered entry.2 = true := by
  induction fuel with
  | zero => exact ⟨by simp [value?], by simp [members?]⟩
  | succ fuel ih =>
      rcases ih with ⟨valueOrdered, membersOrdered⟩
      constructor
      · intro input value rest read
        unfold value? at read
        split at read
        · cases read
          rfl
        · cases read
          rfl
        · cases read
          rfl
        · rcases Option.map_eq_some_iff.mp read with ⟨_, _, same⟩
          cases same
          rfl
        · split at read
          · cases read
            rfl
          · rcases Option.map_eq_some_iff.mp read with ⟨_, _, same⟩
            cases same
            rfl
        · split at read
          · cases read
            rfl
          · rcases Option.map_eq_some_iff.mp read with ⟨⟨members, after⟩, readMembers, same⟩
            cases same
            exact isOrdered_ofMembers (membersOrdered readMembers)
        · rcases Option.map_eq_some_iff.mp read with ⟨_, _, same⟩
          cases same
          rfl
      · intro input members rest read
        unfold members? at read
        simp only [Option.bind_eq_bind, Option.bind_eq_some_iff] at read
        rcases read with ⟨⟨name, afterName⟩, _, read⟩
        split at read
        · rcases Option.bind_eq_some_iff.mp read with ⟨⟨value, afterValue⟩, readValue, read⟩
          have ordered := valueOrdered readValue
          split at read
          · cases read
            simpa using ordered
          · rcases Option.bind_eq_some_iff.mp read with ⟨⟨more, afterMore⟩, readMore, read⟩
            cases read
            exact List.forall_mem_cons.mpr ⟨ordered, membersOrdered readMore⟩
          · contradiction
        · contradiction

/-- Every value that is read is in order. -/
theorem isOrdered_of_parse? {input : String} {value : Json} (read : parse? input = some value) :
    value.isOrdered = true := by
  unfold parse? at read
  dsimp only at read
  split at read
  next value rest readValue =>
      split at read
      · cases read
        exact (Reader.isOrdered_value? _).1 readValue
      · contradiction
  next => contradiction

end Json

end VolumeAttacher
