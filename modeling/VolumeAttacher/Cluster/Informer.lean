import VolumeAttacher.Cluster.Store

/-!
# Informers

An informer keeps a cache of the objects of one kind up to date and tells of each change. It follows
a watch of the cluster: single objects are applied or deleted, and from time to time all objects are
listed anew, after which the cache holds just these.

Objects are told apart by their name and name space. An object without a name cannot be told apart
from others, and an informer that meets one follows the watch no more.
-/

namespace VolumeAttacher

instance : Versioned Node where
  metadata := Node.metadata
  withMetadata node metadata := { node with metadata }
  metadata_withMetadata _ _ := rfl

instance : Versioned CsiNode where
  metadata := CsiNode.metadata
  withMetadata node metadata := { node with metadata }
  metadata_withMetadata _ _ := rfl

/-- What a watch tells. -/
inductive WatchEvent (α : Type) where
  | applied (object : α)
  | deleted (object : α)
  | listingBegun
  | listed (object : α)
  | listingDone
deriving DecidableEq

/-- What the objects of one kind are told apart by. -/
structure Reference where
  space : Option String := none
  name : String
deriving DecidableEq, Repr

/-- The reference to an object, which an object without a name does not have. -/
def Reference.of? {α : Type} [Versioned α] (object : α) : Option Reference :=
  let metadata := Versioned.metadata object
  metadata.name.map fun name => { space := metadata.space, name }

/-- Objects by their references. -/
abbrev Cache (α : Type) : Type :=
  List (Reference × α)

namespace Cache

variable {α : Type}

/-- The object of a reference. -/
def find? (cache : Cache α) (reference : Reference) : Option α :=
  List.lookup reference cache

/-- Removes the object of a reference. -/
def erase (cache : Cache α) (reference : Reference) : Cache α :=
  cache.filter fun entry => entry.1 ≠ reference

/-- Adds an object, replacing the one of the same reference. -/
def insert (cache : Cache α) (reference : Reference) (object : α) : Cache α :=
  (reference, object) :: erase cache reference

/-- The objects of a listing; of two for one reference the later one counts. -/
def ofListing (listing : List (Reference × α)) : Cache α :=
  listing.foldl (fun cache entry => insert cache entry.1 entry.2) []

/-- The object that is meant by a reference: the one of just this reference, or else the one of its
name outside of name spaces. -/
def resolve? (cache : Cache α) (reference : Reference) : Option α :=
  cache.find? reference <|> cache.find? { reference with space := none }

theorem find?_cons (key : Reference) (object : α) (rest : Cache α) (reference : Reference) :
    find? ((key, object) :: rest) reference =
      if reference = key then some object else find? rest reference := by
  by_cases same : reference = key
  · simp [find?, same]
  · simp [find?, List.lookup_cons, beq_false_of_ne same, same]

@[simp] theorem find?_erase (cache : Cache α) (reference other : Reference) :
    find? (erase cache reference) other =
      if other = reference then none else find? cache other := by
  induction cache with
  | nil => simp [erase, find?]
  | cons entry rest ih =>
      rcases entry with ⟨key, object⟩
      simp only [erase, List.filter_cons] at ih ⊢
      by_cases removed : key = reference
      · subst removed
        simp only [ne_eq, not_true_eq_false, decide_false, Bool.false_eq_true, if_false, ih,
          find?_cons]
        split <;> rfl
      · simp only [ne_eq, removed, not_false_eq_true, decide_true, if_true, find?_cons, ih]
        by_cases isKey : other = key
        · subst isKey
          simp [removed]
        · simp [isKey]

@[simp] theorem find?_insert (cache : Cache α) (reference other : Reference) (object : α) :
    find? (insert cache reference object) other =
      if other = reference then some object else find? cache other := by
  simp only [insert, find?_cons, find?_erase]
  split <;> rfl

end Cache

/-- The cache of the objects of one kind. -/
structure Informer (α : Type) where
  cache : Cache α := []
  /-- The objects of the listing that is under way, in order. -/
  listing : List (Reference × α) := []
  synced : Bool := false
  /-- Whether an object without a name has been met. -/
  failed : Bool := false
deriving DecidableEq

namespace Informer

variable {α : Type} [Versioned α]

/-- The change that storing an object is, given the object that it replaces, if any. -/
def changeTo (object : α) : Option α → Change α
  | some old => .updated old object
  | none => .added object

/-- The changes from what was cached to a listing: each listed object is new or replaces one that
was cached, and those that are not replaced have gone. -/
def listingChanges : Cache α → List (Reference × α) → List (Change α)
  | previous, [] => previous.map fun entry => .deleted entry.2
  | previous, (reference, object) :: listing =>
      changeTo object (previous.find? reference) ::
        listingChanges (previous.erase reference) listing

/-- Goes on with the reference to an object. The informer fails if there is none. -/
def withReference (informer : Informer α) (object : α)
    (go : Reference → List (Change α) × Informer α) : List (Change α) × Informer α :=
  match Reference.of? object with
  | some reference => go reference
  | none => ([], { informer with failed := true })

/-- Follows the watch: the changes to tell of, and the informer afterwards. -/
def step (informer : Informer α) (event : WatchEvent α) : List (Change α) × Informer α :=
  if informer.failed then ([], informer)
  else
    match event with
    | .applied object => informer.withReference object fun reference =>
        ([changeTo object (informer.cache.resolve? reference)],
          { informer with cache := informer.cache.insert reference object })
    | .deleted object => informer.withReference object fun reference =>
        ([.deleted object], { informer with cache := informer.cache.erase reference })
    | .listingBegun => ([], { informer with listing := [] })
    | .listed object => informer.withReference object fun reference =>
        ([], { informer with listing := informer.listing ++ [(reference, object)] })
    | .listingDone =>
        (listingChanges informer.cache informer.listing,
          { cache := .ofListing informer.listing, synced := true })

/-- Follows several events of the watch. -/
def follow (informer : Informer α) : List (WatchEvent α) → List (Change α) × Informer α
  | [] => ([], informer)
  | event :: events =>
      let (changes, informer) := informer.step event
      let (later, informer) := informer.follow events
      (changes ++ later, informer)

/-- The events of a complete listing. -/
def listingEvents (objects : List α) : List (WatchEvent α) :=
  .listingBegun :: objects.map .listed ++ [.listingDone]

end Informer

end VolumeAttacher
