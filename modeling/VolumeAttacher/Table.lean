/-!
# Tables

A `Table` maps names to values and keeps its entries in the order of the names. It is the shape of
labels, annotations, string maps of the driver and of every cache of cluster objects, so a listing
of a table is always in name order.

The laws are stated through `Table.find?`: what an operation does to the value found under each
name.
-/

namespace VolumeAttacher

universe u v

/-- A map from names to values, as the list of its entries in name order. -/
abbrev Table (α : Type u) := List (String × α)

namespace Table

variable {α : Type u} {β : Type v}

def find? (table : Table α) (name : String) : Option α :=
  List.lookup name table

def contains (table : Table α) (name : String) : Bool :=
  (find? table name).isSome

def insert : Table α → String → α → Table α
  | [], name, value => [(name, value)]
  | (key, old) :: rest, name, value =>
      if name = key then (name, value) :: rest
      else if name < key then (name, value) :: (key, old) :: rest
      else (key, old) :: insert rest name value

def erase (table : Table α) (name : String) : Table α :=
  table.filter fun entry => entry.1 ≠ name

/-- The table of a list of entries; of two entries for one name the later one counts. -/
def ofList (entries : List (String × α)) : Table α :=
  entries.foldl (fun table entry => insert table entry.1 entry.2) []

/-- The bound names, in order. -/
def names (table : Table α) : List String :=
  table.map Prod.fst

/-- The values, in the order of their names. -/
def values (table : Table α) : List α :=
  table.map Prod.snd

def mapValues (f : α → β) (table : Table α) : Table β :=
  table.map fun entry => (entry.1, f entry.2)

@[simp] theorem find?_nil (name : String) : find? ([] : Table α) name = none := rfl

theorem find?_cons (key : String) (value : α) (rest : Table α) (name : String) :
    find? ((key, value) :: rest) name = if name = key then some value else find? rest name := by
  by_cases same : name = key
  · simp [find?, same]
  · simp [find?, List.lookup_cons, beq_false_of_ne same, same]

@[simp] theorem find?_insert (table : Table α) (name other : String) (value : α) :
    find? (insert table name value) other =
      if other = name then some value else find? table other := by
  induction table with
  | nil => simp [insert, find?_cons]
  | cons entry rest ih =>
      rcases entry with ⟨key, old⟩
      by_cases same : name = key
      · subst same
        simp only [insert, if_true, find?_cons]
        split <;> rfl
      · by_cases before : name < key
        · simp [insert, same, before, find?_cons]
        · simp only [insert, same, before, if_false, find?_cons, ih]
          by_cases isKey : other = key
          · subst isKey
            simp [Ne.symm same]
          · simp [isKey]

@[simp] theorem find?_erase (table : Table α) (name other : String) :
    find? (erase table name) other = if other = name then none else find? table other := by
  induction table with
  | nil => simp [erase]
  | cons entry rest ih =>
      rcases entry with ⟨key, old⟩
      simp only [erase] at ih ⊢
      by_cases removed : key = name
      · subst removed
        simp only [List.filter_cons, ne_eq, not_true_eq_false, decide_false, Bool.false_eq_true,
          if_false, ih, find?_cons]
        split <;> rfl
      · simp only [List.filter_cons, ne_eq, removed, not_false_eq_true, decide_true, if_true,
          find?_cons, ih]
        by_cases isKey : other = key
        · subst isKey
          simp [removed]
        · simp [isKey]

end Table

end VolumeAttacher
