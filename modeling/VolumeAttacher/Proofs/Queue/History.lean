import Mathlib.Data.List.Nodup
import Mathlib.Logic.Relation
import VolumeAttacher.Proofs.Queue.Operations

/-!
# Histories of a queue

A `Usage` is a queue with the events that have happened so far. Its steps are the operations of any
producers, timers and workers, one after another in any order; only that who is done with a key has
been handed it and has not been done with it since is asked of them.

The lists of keys in a queue are then functions of the history: a key is being processed while some
worker holds it, and until the queue is closed it is dirty while an add of it waits for the hand-out
that answers it. `Reaches.sound` proves this together with what the lists have to do with each
other, since a step keeps none of these facts without the rest.
-/

namespace VolumeAttacher.WorkQueue

variable {start event : Event} {ends : Event → Bool} {history : List Event} {key : String}

/-- Whether an event has happened and none that ends what it began has happened since. The latest
event of a history comes first. -/
def Since (start : Event) (ends : Event → Bool) (history : List Event) : Prop :=
  ∃ after before, history = after ++ start :: before ∧ ∀ event ∈ after, ends event = false

theorem since_cons :
    Since start ends (event :: history) ↔
      event = start ∨ ends event = false ∧ Since start ends history := by
  constructor
  · rintro ⟨after, before, same, goesOn⟩
    cases after with
    | nil => exact .inl (List.cons.inj same).1
    | cons first after =>
        rcases List.cons.inj same with ⟨rfl, rest⟩
        refine .inr ⟨goesOn _ List.mem_cons_self, after, before, rest, ?_⟩
        exact fun event within => goesOn event (List.mem_cons_of_mem _ within)
  · rintro (rfl | ⟨spared, after, before, rfl, goesOn⟩)
    · exact ⟨[], history, rfl, by simp⟩
    · refine ⟨event :: after, before, rfl, ?_⟩
      intro other within
      rcases List.mem_cons.mp within with rfl | within
      · exact spared
      · exact goesOn other within

theorem not_since_nil : ¬Since start ends [] := by
  rintro ⟨after, before, same, _⟩
  simp at same

instance Since.decidable (start : Event) (ends : Event → Bool) :
    (history : List Event) → Decidable (Since start ends history)
  | [] => .isFalse not_since_nil
  | event :: history =>
      have := decidable start ends history
      decidable_of_iff (event = start ∨ ends event = false ∧ Since start ends history)
        since_cons.symm

/-- Whether an event is a hand-out of a key. -/
def Event.isHandOutOf (key : String) : Event → Bool
  | handedOut _ other => other == key
  | added _ | finished _ _ => false

/-- Whether a worker was handed a key and has not been done with it since. -/
abbrev Holds (history : List Event) (worker : Nat) (key : String) : Prop :=
  Since (.handedOut worker key) (· == .finished worker key) history

/-- Whether the latest add of a key is later than its latest hand-out. -/
abbrev Pending (history : List Event) (key : String) : Prop :=
  Since (.added key) (Event.isHandOutOf key) history

@[simp]
theorem holds_added {worker : Nat} {added : String} :
    Holds (.added added :: history) worker key ↔ Holds history worker key := by
  simp [since_cons]

@[simp]
theorem holds_handedOut {worker taker : Nat} {taken : String} :
    Holds (.handedOut taker taken :: history) worker key ↔
      (taker = worker ∧ taken = key) ∨ Holds history worker key := by
  simp [since_cons]

@[simp]
theorem holds_finished {worker finisher : Nat} {finished : String} :
    Holds (.finished finisher finished :: history) worker key ↔
      ¬(finisher = worker ∧ finished = key) ∧ Holds history worker key := by
  simp [since_cons]

@[simp]
theorem pending_added {added : String} :
    Pending (.added added :: history) key ↔ added = key ∨ Pending history key := by
  simp [since_cons, Event.isHandOutOf]

@[simp]
theorem pending_handedOut {taker : Nat} {taken : String} :
    Pending (.handedOut taker taken :: history) key ↔ taken ≠ key ∧ Pending history key := by
  simp [since_cons, Event.isHandOutOf]

@[simp]
theorem pending_finished {finisher : Nat} {finished : String} :
    Pending (.finished finisher finished :: history) key ↔ Pending history key := by
  simp [since_cons, Event.isHandOutOf]

/-- A queue and what has happened to it. -/
structure Usage where
  queue : WorkQueue
  history : List Event

namespace Usage

variable {policy : RetryPolicy} {usage later : Usage} {queue : WorkQueue}

def initial (policy : RetryPolicy) : Usage :=
  ⟨.empty policy, []⟩

/-- Whether an operation may be next: only a worker that holds a key is done with it. -/
def Allows (usage : Usage) : Operation → Prop
  | .finish worker key => Holds usage.history worker key
  | _ => True

inductive Step (usage : Usage) : Usage → Prop where
  | mk (operation : Operation) {event : Option Event} {queue : WorkQueue}
      (allowed : usage.Allows operation) (runs : operation.run usage.queue = (event, queue)) :
      Step usage ⟨queue, event.toList ++ usage.history⟩

abbrev Reaches : Usage → Usage → Prop :=
  Relation.ReflTransGen Step

structure Sound (usage : Usage) : Prop where
  nodup : usage.queue.ready.Nodup
  marked : ∀ key ∈ usage.queue.ready, key ∈ usage.queue.dirty
  idle : ∀ key ∈ usage.queue.ready, key ∉ usage.queue.processing
  held : ∀ key, key ∈ usage.queue.processing ↔ ∃ worker, Holds usage.history worker key
  single : ∀ key worker other, Holds usage.history worker key → Holds usage.history other key →
    worker = other
  queued : usage.queue.closed = false → ∀ key ∈ usage.queue.dirty,
    key ∉ usage.queue.processing → key ∈ usage.queue.ready
  pending : usage.queue.closed = false → ∀ key,
    key ∈ usage.queue.dirty ↔ Pending usage.history key

theorem sound_initial (policy : RetryPolicy) : (initial policy).Sound where
  nodup := List.nodup_nil
  marked := by simp [initial, empty]
  idle := by simp [initial, empty]
  held := by simp [initial, empty, not_since_nil]
  single := by simp [initial, not_since_nil]
  queued := by simp [initial, empty]
  pending := by simp [initial, empty, not_since_nil]

theorem Sound.added (sound : usage.Sound) {added : String}
    (isOpen : usage.queue.closed = false) (fresh : added ∉ usage.queue.dirty)
    (keys : queue.HasKeys
      (if added ∈ usage.queue.processing then usage.queue.ready else usage.queue.ready ++ [added])
      (usage.queue.dirty ++ [added]) usage.queue.processing usage.queue.closed) :
    Sound ⟨queue, .added added :: usage.history⟩ := by
  rcases keys with ⟨ready, dirty, processing, closed⟩
  have notReady : added ∉ usage.queue.ready := fun within => fresh (sound.marked _ within)
  refine ⟨?_, ?_, ?_, ?_, ?_, ?_, ?_⟩
  · show queue.ready.Nodup
    rw [ready]
    split
    · exact sound.nodup
    · exact List.nodup_append.mpr ⟨sound.nodup, List.nodup_singleton added, by
        rintro key within other last rfl
        rw [List.mem_singleton] at last
        exact notReady (last ▸ within)⟩
  · intro key within
    simp only [ready, dirty] at within ⊢
    have cases : key ∈ usage.queue.ready ∨ key = added := by grind
    rcases cases with within | rfl
    · exact List.mem_append_left _ (sound.marked key within)
    · simp
  · intro key within
    simp only [ready, processing] at within ⊢
    split at within
    · exact sound.idle key within
    next free =>
        rcases List.mem_append.mp within with within | last
        · exact sound.idle key within
        · exact List.mem_singleton.mp last ▸ free
  · intro key
    simp only [processing, holds_added]
    exact sound.held key
  · intro key worker other holds otherHolds
    rw [holds_added] at holds otherHolds
    exact sound.single key worker other holds otherHolds
  · intro _ key within free
    simp only [ready, dirty, processing] at within free ⊢
    rcases List.mem_append.mp within with within | last
    · have queued := sound.queued isOpen key within free
      split
      · exact queued
      · exact List.mem_append_left _ queued
    · rw [List.mem_singleton] at last
      subst last
      rw [if_neg free]
      simp
  · intro _ key
    simp only [dirty, pending_added, List.mem_append, List.mem_singleton]
    rw [sound.pending isOpen key, eq_comm (a := key), or_comm]

theorem Sound.handedOut (sound : usage.Sound) {worker : Nat} {taken : String}
    (first : usage.queue.ready = taken :: queue.ready)
    (keys : queue.HasKeys queue.ready (usage.queue.dirty.filter (· ≠ taken))
      (usage.queue.processing ++ [taken]) usage.queue.closed) :
    Sound ⟨queue, .handedOut worker taken :: usage.history⟩ := by
  rcases keys with ⟨_, dirty, processing, closed⟩
  have nodup := sound.nodup
  rw [first, List.nodup_cons] at nodup
  have within : taken ∈ usage.queue.ready := first ▸ List.mem_cons_self
  have unheld (other : Nat) : ¬Holds usage.history other taken := fun holds =>
    sound.idle taken within ((sound.held taken).mpr ⟨other, holds⟩)
  refine ⟨nodup.2, ?_, ?_, ?_, ?_, ?_, ?_⟩
  · intro key ready
    have other : key ≠ taken := fun same => nodup.1 (same ▸ ready)
    simp only [dirty, List.mem_filter, decide_eq_true_eq]
    exact ⟨sound.marked key (first ▸ List.mem_cons_of_mem _ ready), other⟩
  · intro key ready
    have other : key ≠ taken := fun same => nodup.1 (same ▸ ready)
    simp only [processing, List.mem_append, List.mem_singleton, not_or]
    exact ⟨sound.idle key (first ▸ List.mem_cons_of_mem _ ready), other⟩
  · intro key
    simp only [processing, List.mem_append, List.mem_singleton, holds_handedOut, sound.held key]
    constructor
    · rintro (⟨other, holds⟩ | rfl)
      · exact ⟨other, .inr holds⟩
      · exact ⟨worker, .inl ⟨rfl, rfl⟩⟩
    · rintro ⟨other, ⟨_, rfl⟩ | holds⟩
      · exact .inr rfl
      · exact .inl ⟨other, holds⟩
  · intro key holder other holds otherHolds
    rw [holds_handedOut] at holds otherHolds
    rcases holds with ⟨rfl, rfl⟩ | holds
    · rcases otherHolds with ⟨rfl, _⟩ | otherHolds
      · rfl
      · exact absurd otherHolds (unheld other)
    · rcases otherHolds with ⟨_, rfl⟩ | otherHolds
      · exact absurd holds (unheld holder)
      · exact sound.single key holder other holds otherHolds
  · intro isOpen key marked free
    simp only [dirty, processing, closed, List.mem_filter, List.mem_append, List.mem_singleton,
      decide_eq_true_eq, not_or] at isOpen marked free
    have ready := sound.queued isOpen key marked.1 free.1
    rw [first] at ready
    exact (List.mem_cons.mp ready).resolve_left marked.2
  · intro isOpen key
    simp only [closed] at isOpen
    simp only [dirty, List.mem_filter, decide_eq_true_eq, pending_handedOut]
    rw [sound.pending isOpen key, ne_comm, and_comm]

theorem Sound.finished (sound : usage.Sound) {worker : Nat} {finished : String}
    (holds : Holds usage.history worker finished)
    (keys : queue.HasKeys
      (if finished ∈ usage.queue.dirty ∧ usage.queue.closed = false then
        usage.queue.ready ++ [finished] else usage.queue.ready)
      usage.queue.dirty (usage.queue.processing.filter (· ≠ finished)) usage.queue.closed) :
    Sound ⟨queue, .finished worker finished :: usage.history⟩ := by
  rcases keys with ⟨ready, dirty, processing, closed⟩
  have inWork : finished ∈ usage.queue.processing := (sound.held _).mpr ⟨worker, holds⟩
  have notReady : finished ∉ usage.queue.ready := fun within => sound.idle _ within inWork
  have readyCases {key : String} (within : key ∈ queue.ready) :
      key ∈ usage.queue.ready ∨ key = finished ∧ finished ∈ usage.queue.dirty := by
    rw [ready] at within
    split at within
    next again => simpa [again.1] using within
    next => exact .inl within
  refine ⟨?_, ?_, ?_, ?_, ?_, ?_, ?_⟩
  · show queue.ready.Nodup
    rw [ready]
    split
    · exact List.nodup_append.mpr ⟨sound.nodup, List.nodup_singleton finished, by
        rintro key within other last rfl
        rw [List.mem_singleton] at last
        exact notReady (last ▸ within)⟩
    · exact sound.nodup
  · intro key within
    simp only [dirty]
    rcases readyCases within with within | ⟨rfl, marked⟩
    · exact sound.marked key within
    · exact marked
  · intro key within
    simp only [processing, List.mem_filter, decide_eq_true_eq, not_and, not_not]
    intro stillInWork
    rcases readyCases within with within | ⟨rfl, _⟩
    · exact absurd stillInWork (sound.idle key within)
    · rfl
  · intro key
    simp only [processing, List.mem_filter, decide_eq_true_eq, holds_finished, sound.held key]
    constructor
    · rintro ⟨⟨other, otherHolds⟩, isOther⟩
      exact ⟨other, fun same => isOther same.2.symm, otherHolds⟩
    · rintro ⟨other, isOther, otherHolds⟩
      refine ⟨⟨other, otherHolds⟩, ?_⟩
      rintro rfl
      exact isOther ⟨sound.single key worker other holds otherHolds, rfl⟩
  · intro key holder other holds otherHolds
    rw [holds_finished] at holds otherHolds
    exact sound.single key holder other holds.2 otherHolds.2
  · intro isOpen key marked free
    simp only [dirty, closed] at isOpen marked
    simp only [processing, List.mem_filter, decide_eq_true_eq, not_and, not_not] at free
    show key ∈ queue.ready
    rw [ready]
    by_cases isFinished : key = finished
    · rw [isFinished] at marked ⊢
      rw [if_pos ⟨marked, isOpen⟩]
      simp
    · have queued := sound.queued isOpen key marked fun inWork => isFinished (free inWork)
      split
      · exact List.mem_append_left _ queued
      · exact queued
  · intro isOpen key
    simp only [closed] at isOpen
    simp only [dirty, pending_finished]
    exact sound.pending isOpen key

theorem Sound.aside (sound : usage.Sound) {closed : Bool}
    (keys : queue.HasKeys usage.queue.ready usage.queue.dirty usage.queue.processing closed)
    (stays : closed = false → usage.queue.closed = false) : Sound ⟨queue, usage.history⟩ := by
  rcases keys with ⟨ready, dirty, processing, rfl⟩
  refine ⟨?_, ?_, ?_, ?_, sound.single, ?_, ?_⟩
  · simpa only [ready] using sound.nodup
  · simpa only [ready, dirty] using sound.marked
  · simpa only [ready, processing] using sound.idle
  · simpa only [processing] using sound.held
  · intro isOpen
    simpa only [ready, dirty, processing] using sound.queued (stays isOpen)
  · intro isOpen
    simpa only [dirty] using sound.pending (stays isOpen)

theorem Sound.ignored (sound : usage.Sound) {ignored : String}
    (needless : usage.queue.closed = true ∨ ignored ∈ usage.queue.dirty)
    (same : usage.queue.SameKeys queue) : Sound ⟨queue, .added ignored :: usage.history⟩ := by
  have kept := sound.aside same id
  refine ⟨kept.nodup, kept.marked, kept.idle, ?_, ?_, kept.queued, ?_⟩
  · intro key
    simp only [holds_added]
    exact kept.held key
  · intro key worker other holds otherHolds
    rw [holds_added] at holds otherHolds
    exact sound.single key worker other holds otherHolds
  · intro isOpen key
    have marked : Pending usage.history ignored := by
      have wasOpen : usage.queue.closed = false := same.closed ▸ isOpen
      rw [wasOpen] at needless
      exact (sound.pending wasOpen ignored).mp (needless.resolve_left Bool.false_ne_true)
    rw [pending_added]
    refine (kept.pending isOpen key).trans ⟨.inr, ?_⟩
    rintro (rfl | pending)
    · exact marked
    · exact pending

theorem Sound.step (sound : usage.Sound) (step : usage.Step later) : later.Sound := by
  cases step with
  | mk operation allowed runs =>
      cases Operation.change runs with
      | aside same => exact sound.aside same id
      | closed keys => exact sound.aside keys fun isOpen => absurd isOpen.symm Bool.false_ne_true
      | ignored key needless same => exact sound.ignored needless same
      | added key isOpen fresh keys => exact sound.added isOpen fresh keys
      | handedOut worker key first keys => exact sound.handedOut first keys
      | finished worker key keys =>
          rw [eq_finish_of_run runs] at allowed
          exact sound.finished allowed keys

theorem Reaches.sound (reached : (initial policy).Reaches usage) : usage.Sound := by
  induction reached with
  | refl => exact sound_initial policy
  | tail _ step ih => exact ih.step step

theorem Step.isOpen (step : usage.Step later) (isOpen : later.queue.closed = false) :
    usage.queue.closed = false := by
  cases step with
  | mk operation allowed runs =>
      cases Operation.change runs with
      | closed keys => exact absurd (isOpen.symm.trans keys.closed) Bool.false_ne_true
      | aside keys => exact keys.closed.symm.trans isOpen
      | ignored key needless keys => exact keys.closed.symm.trans isOpen
      | added key wasOpen => exact wasOpen
      | handedOut worker key first keys => exact keys.closed.symm.trans isOpen
      | finished worker key keys => exact keys.closed.symm.trans isOpen

/-- A queue that is open has been open all along. -/
theorem Reaches.isOpen (reaches : usage.Reaches later) (isOpen : later.queue.closed = false) :
    usage.queue.closed = false := by
  induction reaches with
  | refl => exact isOpen
  | tail _ step ih => exact ih (step.isOpen isOpen)

/-- Each event of a history happened at some time, in the usage with the events before it. -/
theorem Reaches.change_of_history (reached : (initial policy).Reaches usage)
    {newer older : List Event} (happened : usage.history = newer ++ event :: older) :
    ∃ earlier queue, (initial policy).Reaches earlier ∧ earlier.Reaches usage ∧
      earlier.history = older ∧ Change earlier.queue queue (some event) := by
  induction reached generalizing newer with
  | refl => simp [initial] at happened
  | @tail before after reached step ih =>
      cases step with
      | @mk operation event? queue allowed runs =>
          have stepped : before.Step ⟨queue, event?.toList ++ before.history⟩ :=
            .mk operation allowed runs
          cases event? with
          | none =>
              rcases ih happened with ⟨earlier, new, initially, onwards, same, change⟩
              exact ⟨earlier, new, initially, onwards.tail stepped, same, change⟩
          | some latest =>
              cases newer with
              | nil =>
                  rcases List.cons.inj happened with ⟨rfl, same⟩
                  exact ⟨before, queue, reached, .single stepped, same, Operation.change runs⟩
              | cons first newer =>
                  have same := (List.cons.inj happened).2
                  rcases ih same with ⟨earlier, new, initially, onwards, same, change⟩
                  exact ⟨earlier, new, initially, onwards.tail stepped, same, change⟩

/-- A key that is ready is held by nobody. -/
theorem Sound.not_holds (sound : usage.Sound) (ready : key ∈ usage.queue.ready) (worker : Nat) :
    ¬Holds usage.history worker key := fun holds =>
  sound.idle key ready ((sound.held key).mpr ⟨worker, holds⟩)

/-- Between two hand-outs of a key the worker that was handed it first is done with it. -/
theorem Reaches.finished_between (reached : (initial policy).Reaches usage)
    {newer between older : List Event} {first second : Nat}
    (happened : usage.history =
      newer ++ .handedOut second key :: (between ++ .handedOut first key :: older)) :
    .finished first key ∈ between := by
  rcases reached.change_of_history happened with ⟨earlier, queue, initially, _, same, change⟩
  cases change with
  | handedOut _ _ ready _ =>
      have unheld := initially.sound.not_holds (ready ▸ List.mem_cons_self) first
      by_contra unfinished
      refine unheld ⟨between, older, same, ?_⟩
      intro event within
      rw [beq_eq_false_iff_ne]
      rintro rfl
      exact unfinished within

end Usage

end VolumeAttacher.WorkQueue
