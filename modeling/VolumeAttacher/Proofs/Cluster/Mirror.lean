import VolumeAttacher.Cluster.Informer

/-!
# What an informer tells mirrors its cache

Who only listens to an informer keeps objects of its own: what is added or updated is put among
them, what is deleted is taken from them. A reflector keeps a store and, while all objects are
listed, a buffer that takes the place of the store in the end. After each event of the watch the
listener holds what the reflector holds, which is also what the informer has in its cache.

Of a listing, all objects are told in order, and then the deletions of those that were not listed,
in any order.
-/

namespace VolumeAttacher

variable {α : Type}

/-- Changes with their last deletions in another order. -/
inductive Change.Reordered : List (Change α) → List (Change α) → Prop
  | intro (changes : List (Change α)) {gone goneOtherwise : List α}
    (same : gone.Perm goneOtherwise) :
    Reordered (changes ++ gone.map .deleted) (changes ++ goneOtherwise.map .deleted)

theorem Change.Reordered.refl (changes : List (Change α)) : Reordered changes changes := by
  have same : Reordered (changes ++ [].map .deleted) (changes ++ [].map .deleted) :=
    .intro changes (List.Perm.refl [])
  rwa [List.map_nil, List.append_nil] at same

theorem Change.Reordered.eq_nil {changes : List (Change α)} (reordered : Reordered [] changes) :
    changes = [] := by
  generalize nothing : ([] : List (Change α)) = told at reordered
  rcases reordered with ⟨first, same⟩
  rcases List.append_eq_nil_iff.mp nothing.symm with ⟨rfl, noneGone⟩
  cases List.map_eq_nil_iff.mp noneGone
  rw [same.nil_eq]

namespace Cache

theorem ofListing_append_singleton (listing : List (Reference × α)) (entry : Reference × α) :
    ofListing (listing ++ [entry]) = (ofListing listing).insert entry.1 entry.2 := by
  rw [ofListing, List.foldl_append]
  rfl

/-- What is listed first counts only as long as it is not listed again. -/
theorem find?_ofListing_cons (key : Reference) (object : α) (listing : List (Reference × α))
    (reference : Reference) :
    find? (ofListing ((key, object) :: listing)) reference =
      (find? (ofListing listing) reference <|> if reference = key then some object else none) := by
  suffices ∀ cache : Cache α,
      find? (listing.foldl (fun cache entry => insert cache entry.1 entry.2) cache) reference =
        (find? (ofListing listing) reference <|> find? cache reference) by
    rw [ofListing, List.foldl_cons, this, find?_insert]
    rfl
  induction listing with
  | nil => exact fun cache => rfl
  | cons entry rest ih =>
      intro cache
      have alone : find? (ofListing (entry :: rest)) reference =
          (find? (ofListing rest) reference <|>
            find? (insert [] entry.1 entry.2) reference) := ih _
      rw [List.foldl_cons, ih, alone, find?_insert, find?_insert]
      cases find? (ofListing rest) reference with
      | some later => rfl
      | none => split <;> rfl

end Cache

variable [Versioned α] {cache : Cache α} {reference : Reference} {object : α}

namespace Cache

/-- Puts an object among the others. -/
def put (cache : Cache α) (object : α) : Cache α :=
  (Reference.of? object).elim cache fun reference => cache.insert reference object

/-- Takes an object from the others. -/
def remove (cache : Cache α) (object : α) : Cache α :=
  (Reference.of? object).elim cache cache.erase

theorem put_eq (own : Reference.of? object = some reference) :
    cache.put object = cache.insert reference object := by
  rw [put, own]
  rfl

theorem remove_eq (own : Reference.of? object = some reference) :
    cache.remove object = cache.erase reference := by
  rw [remove, own]
  rfl

/-- Whether all objects are under their own references. -/
def IsKeyed (cache : Cache α) : Prop :=
  ∀ entry ∈ cache, Reference.of? entry.2 = some entry.1

theorem find?_remove (cache : Cache α) (object : α) (reference : Reference) :
    (cache.remove object).find? reference =
      if Reference.of? object = some reference then none else cache.find? reference := by
  unfold remove
  cases Reference.of? object with
  | none => simp
  | some own => simp [eq_comm]

theorem IsKeyed.erase (keyed : cache.IsKeyed) (reference : Reference) :
    (cache.erase reference).IsKeyed :=
  fun entry within => keyed entry (List.mem_filter.mp within).1

theorem IsKeyed.insert (keyed : cache.IsKeyed) (own : Reference.of? object = some reference) :
    (cache.insert reference object).IsKeyed := by
  intro entry within
  rcases List.mem_cons.mp within with rfl | within
  · exact own
  · exact keyed.erase reference entry within

theorem isKeyed_ofListing {listing : List (Reference × α)} (keyed : IsKeyed listing) :
    IsKeyed (ofListing listing) := by
  suffices ∀ cache : Cache α, cache.IsKeyed →
      IsKeyed (listing.foldl (fun cache entry => insert cache entry.1 entry.2) cache)
    from this [] (by simp [IsKeyed])
  induction listing with
  | nil => exact fun cache cacheKeyed => cacheKeyed
  | cons entry rest ih =>
      rcases List.forall_mem_cons.mp keyed with ⟨own, restKeyed⟩
      exact fun cache cacheKeyed => ih restKeyed _ (cacheKeyed.insert own)

/-- In a cache whose objects are under their own references, an object is found under each
reference that one of them has. -/
theorem IsKeyed.find?_eq_none_iff (keyed : cache.IsKeyed) :
    cache.find? reference = none ↔
      ∀ object ∈ cache.map Prod.snd, Reference.of? object ≠ some reference := by
  induction cache with
  | nil => simp [find?]
  | cons entry rest ih =>
      rcases entry with ⟨key, object⟩
      rcases List.forall_mem_cons.mp keyed with ⟨own, restKeyed⟩
      rw [find?_cons, List.map_cons, List.forall_mem_cons, ← ih restKeyed, own]
      by_cases isKey : reference = key
      · simp [isKey]
      · simp [isKey, Ne.symm isKey]

end Cache

/-- What a listener makes of a change. -/
def Change.apply (cache : Cache α) : Change α → Cache α
  | .added object => cache.put object
  | .updated _ object => cache.put object
  | .deleted object => cache.remove object

/-- What a listener holds after changes. -/
def heard (changes : List (Change α)) : Cache α :=
  changes.foldl Change.apply []

/-- The store of a watch, and the objects that have been listed since a listing has begun. -/
structure Reflector (α : Type) where
  store : Cache α := []
  buffer : Cache α := []

namespace Reflector

def step (reflector : Reflector α) : WatchEvent α → Reflector α
  | .applied object => { reflector with store := reflector.store.put object }
  | .deleted object => { reflector with store := reflector.store.remove object }
  | .listingBegun => { reflector with buffer := [] }
  | .listed object => { reflector with buffer := reflector.buffer.put object }
  | .listingDone => { store := reflector.buffer, buffer := [] }

def after (events : List (WatchEvent α)) : Reflector α :=
  events.foldl step {}

end Reflector

/-- Whether an event is of no object, or of an object with a name. -/
def WatchEvent.isNamed : WatchEvent α → Bool
  | .applied object => (Reference.of? object).isSome
  | .deleted object => (Reference.of? object).isSome
  | .listed object => (Reference.of? object).isSome
  | .listingBegun => true
  | .listingDone => true

namespace Informer

/-- What an informer may tell of events, and the informer afterwards. -/
inductive Tells : Informer α → List (WatchEvent α) → List (Change α) → Informer α → Prop
  | nil (informer : Informer α) : Tells informer [] [] informer
  | cons {informer last : Informer α} {event : WatchEvent α} {events : List (WatchEvent α)}
    {changes later : List (Change α)} (told : Change.Reordered (informer.step event).1 changes)
    (tells : Tells (informer.step event).2 events later last) :
    Tells informer (event :: events) (changes ++ later) last

/-- In the order in which the informer has them, the changes are such as it may tell. -/
theorem tells_follow (informer : Informer α) (events : List (WatchEvent α)) :
    Tells informer events (informer.follow events).1 (informer.follow events).2 := by
  induction events generalizing informer with
  | nil => exact .nil informer
  | cons event events ih => exact .cons (.refl _) (ih _)

/-- The events that an informer heeds: it follows the watch up to an object without a name. -/
def heeded (events : List (WatchEvent α)) : List (WatchEvent α) :=
  events.takeWhile WatchEvent.isNamed

/-- An informer with a reflector of the same watch and what a listener holds. -/
structure Mirrors (informer : Informer α) (reflector : Reflector α) (held : Cache α) : Prop where
  keyed : informer.cache.IsKeyed
  listingKeyed : Cache.IsKeyed informer.listing
  store_eq : reflector.store = informer.cache
  buffer_eq : reflector.buffer = .ofListing informer.listing
  held_eq : ∀ reference, held.find? reference = informer.cache.find? reference

theorem mirrors_initial : Mirrors ({} : Informer α) {} [] where
  keyed := by simp [Cache.IsKeyed]
  listingKeyed := by simp [Cache.IsKeyed]
  store_eq := rfl
  buffer_eq := rfl
  held_eq _ := rfl

theorem apply_changeTo (held : Cache α) (object : α) (old : Option α) :
    Change.apply held (changeTo object old) = held.put object := by
  cases old <;> rfl

/-- After deletions, what is found is what was, unless it has been deleted. -/
theorem find?_foldl_deleted (gone : List α) (held : Cache α) (reference : Reference) :
    ((gone.map Change.deleted).foldl Change.apply held).find? reference =
      if ∀ object ∈ gone, Reference.of? object ≠ some reference then held.find? reference
      else none := by
  induction gone generalizing held with
  | nil => simp
  | cons object gone ih =>
      rw [List.map_cons, List.foldl_cons, ih, Change.apply, Cache.find?_remove]
      simp only [List.forall_mem_cons]
      by_cases isOwn : Reference.of? object = some reference
      · simp [isOwn]
      · simp [isOwn]

/-- The order of the last deletions makes no difference to a listener. -/
theorem find?_foldl_reordered {changes told : List (Change α)}
    (reordered : Change.Reordered changes told) (held : Cache α) (reference : Reference) :
    (told.foldl Change.apply held).find? reference =
      (changes.foldl Change.apply held).find? reference := by
  rcases reordered with ⟨first, same⟩
  rw [List.foldl_append, List.foldl_append, find?_foldl_deleted, find?_foldl_deleted]
  simp only [same.mem_iff]

/-- After the changes to a listing, a listener holds what is listed, and of all else that it held
only what was not cached. -/
theorem find?_foldl_listingChanges {previous : Cache α} {listing : List (Reference × α)}
    (keyed : previous.IsKeyed) (listingKeyed : Cache.IsKeyed listing) (held : Cache α)
    (reference : Reference) :
    ((listingChanges previous listing).foldl Change.apply held).find? reference =
      (Cache.find? (.ofListing listing) reference <|>
        if previous.find? reference = none then held.find? reference else none) := by
  induction listing generalizing previous held with
  | nil =>
      have deletions : listingChanges previous [] = (previous.map Prod.snd).map .deleted := by
        simp [listingChanges]
      rw [deletions, find?_foldl_deleted]
      simp only [keyed.find?_eq_none_iff]
      rfl
  | cons entry listing ih =>
      rcases entry with ⟨key, object⟩
      rcases List.forall_mem_cons.mp listingKeyed with ⟨own, restKeyed⟩
      rw [listingChanges, List.foldl_cons, apply_changeTo, Cache.put_eq own,
        ih (keyed.erase key) restKeyed,
        Cache.find?_ofListing_cons, Cache.find?_erase, Cache.find?_insert]
      cases Cache.find? (.ofListing listing) reference with
      | some later => rfl
      | none =>
          by_cases isKey : reference = key
          · simp [isKey]
          · simp [isKey]

variable {informer last : Informer α} {reflector : Reflector α} {held : Cache α}
  {event : WatchEvent α} {events : List (WatchEvent α)} {told : List (Change α)}

/-- The mirror stays right with every event. What is held and is not listed was cached, so that it
is told to be gone. -/
theorem Mirrors.step (mirrors : Mirrors informer reflector held)
    (following : informer.failed = false) (named : event.isNamed = true) :
    Mirrors (informer.step event).2 (reflector.step event)
        ((informer.step event).1.foldl Change.apply held) ∧
      (informer.step event).2.failed = false := by
  rcases mirrors with ⟨keyed, listingKeyed, storeEq, bufferEq, heldEq⟩
  have goesOn : ∀ {object : α} {own : Reference} (go), Reference.of? object = some own →
      informer.withReference object go = go own := by
    intro object own go isOwn
    rw [withReference, isOwn]
  unfold Informer.step
  rw [if_neg (by simp [following])]
  cases event with
  | applied object =>
      rcases Option.isSome_iff_exists.mp named with ⟨own, isOwn⟩
      dsimp only
      rw [goesOn _ isOwn]
      refine ⟨⟨keyed.insert isOwn, listingKeyed, ?_, bufferEq, ?_⟩, following⟩
      · rw [Reflector.step, Cache.put_eq isOwn, storeEq]
      · intro reference
        rw [List.foldl_cons, apply_changeTo, Cache.put_eq isOwn, List.foldl_nil,
          Cache.find?_insert, Cache.find?_insert, heldEq]
  | deleted object =>
      rcases Option.isSome_iff_exists.mp named with ⟨own, isOwn⟩
      dsimp only
      rw [goesOn _ isOwn]
      refine ⟨⟨keyed.erase own, listingKeyed, ?_, bufferEq, ?_⟩, following⟩
      · rw [Reflector.step, Cache.remove_eq isOwn, storeEq]
      · intro reference
        rw [List.foldl_cons, Change.apply, Cache.remove_eq isOwn, List.foldl_nil,
          Cache.find?_erase, Cache.find?_erase, heldEq]
  | listingBegun => exact ⟨⟨keyed, by simp [Cache.IsKeyed], storeEq, rfl, heldEq⟩, following⟩
  | listed object =>
      rcases Option.isSome_iff_exists.mp named with ⟨own, isOwn⟩
      dsimp only
      rw [goesOn _ isOwn]
      refine ⟨⟨keyed, ?_, storeEq, ?_, heldEq⟩, following⟩
      · exact List.forall_mem_append.mpr ⟨listingKeyed, by simpa using isOwn⟩
      · rw [Reflector.step, Cache.put_eq isOwn, bufferEq, Cache.ofListing_append_singleton]
  | listingDone =>
      refine ⟨⟨Cache.isKeyed_ofListing listingKeyed, by simp [Cache.IsKeyed], bufferEq, rfl, ?_⟩,
        rfl⟩
      intro reference
      rw [find?_foldl_listingChanges keyed listingKeyed, heldEq]
      cases informer.cache.find? reference <;> simp

/-- An object without a name ends what is told, and leaves the cache as it is. -/
theorem step_unnamed (following : informer.failed = false) (unnamed : event.isNamed = false) :
    informer.step event = ([], { informer with failed := true }) := by
  unfold Informer.step
  rw [if_neg (by simp [following])]
  cases event with
  | listingBegun => contradiction
  | listingDone => contradiction
  | _ =>
      dsimp only
      rw [withReference, Option.isNone_iff_eq_none.mp (Option.isSome_eq_false_iff.mp unnamed)]

theorem Tells.of_failed (tells : Tells informer events told last)
    (failed : informer.failed = true) :
    told = [] ∧ last = informer := by
  induction tells with
  | nil => exact ⟨rfl, rfl⟩
  | cons reordered _ ih =>
      unfold Informer.step at reordered ih
      rw [if_pos failed] at reordered ih
      rcases ih failed with ⟨rfl, rfl⟩
      rw [reordered.eq_nil]
      exact ⟨rfl, rfl⟩

/-- After an object without a name the informer has failed, and nothing more is told. -/
theorem Tells.mirrors (tells : Tells informer events told last)
    (following : informer.failed = false) (mirrors : Mirrors informer reflector held) :
    Mirrors last ((heeded events).foldl Reflector.step reflector)
      (told.foldl Change.apply held) := by
  induction tells generalizing reflector held with
  | nil => exact mirrors
  | @cons informer last event events changes later reordered tells ih =>
      cases named : event.isNamed with
      | true =>
          rw [heeded, List.takeWhile_cons_of_pos named, List.foldl_cons, List.foldl_append]
          rcases mirrors.step following named with ⟨stepped, following⟩
          refine ih following { stepped with held_eq := ?_ }
          intro reference
          rw [find?_foldl_reordered reordered, stepped.held_eq]
      | false =>
          rw [heeded, List.takeWhile_cons_of_neg (by simp [named])]
          rw [step_unnamed following named] at reordered tells
          rcases tells.of_failed rfl with ⟨rfl, rfl⟩
          rw [reordered.eq_nil]
          exact { mirrors with }

/-- Whatever the events of the watch and in whatever order deletions are told: who listens holds
what the reflector holds. -/
theorem Tells.heard_mirrors_store (tells : Tells {} events told last) (reference : Reference) :
    (heard told).find? reference = (Reflector.after (heeded events)).store.find? reference ∧
      last.cache = (Reflector.after (heeded events)).store := by
  have mirrors := tells.mirrors rfl mirrors_initial
  refine ⟨?_, mirrors.store_eq.symm⟩
  rw [Reflector.after, mirrors.store_eq]
  exact mirrors.held_eq reference

/-- A node in a version. -/
def nodeIn (name version : String) : Node :=
  { metadata := { name := some name, resourceVersion := some version } }

/-- A listing that is broken off, one with an object listed twice, the deletion of an unknown
object, and a listing after deletions that the watch has missed. -/
def gappedEvents : List (WatchEvent Node) :=
  [.listingBegun, .listed (nodeIn "a" "1"), .listed (nodeIn "d" "1"),
    .listingBegun, .listed (nodeIn "a" "1"), .listed (nodeIn "b" "2"), .listed (nodeIn "c" "3"),
    .listed (nodeIn "a" "4"), .listingDone, .deleted (nodeIn "d" "5"),
    .listingBegun, .applied (nodeIn "c" "6"), .listed (nodeIn "b" "7"), .listingDone]

theorem heard_mirrors_store_gappedEvents :
    heeded gappedEvents = gappedEvents ∧
      (heard (follow {} gappedEvents).1).find? { name := "b" } =
        (Reflector.after (heeded gappedEvents)).store.find? { name := "b" } ∧
      (heard (follow {} gappedEvents).1).find? { name := "b" } = some (nodeIn "b" "7") ∧
      (follow {} gappedEvents).2.cache = (Reflector.after (heeded gappedEvents)).store := by
  have mirrors := (tells_follow {} gappedEvents).heard_mirrors_store { name := "b" }
  exact ⟨by decide +kernel, mirrors.1, by decide +kernel, mirrors.2⟩

end Informer

end VolumeAttacher
