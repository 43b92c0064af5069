import VolumeAttacher.Proofs.Queue.History

/-!
# Every added key is handed out, and once

No add is lost and none counts twice. Adds of a key between two hand-outs of it make up a burst, and
a burst is answered by one hand-out: as long as that has not happened the key is pending, which is
why hand-outs and bursts can be counted against each other.

Keys that are ready are handed out in their order. What has entered the ready keys on the way from
one usage to a later one comes after those that were there, so that the ready keys of the former are
handed out first.
-/

namespace VolumeAttacher.WorkQueue

/-- How often a key was handed out. -/
def handOuts (key : String) (history : List Event) : Nat :=
  history.countP (Event.isHandOutOf key)

/-- How often a key was added while no earlier add of it waited to be handed out. -/
def bursts (key : String) : List Event → Nat
  | [] => 0
  | event :: history =>
      bursts key history + if event = .added key ∧ ¬Pending history key then 1 else 0

def Event.handedOutKey? : Event → Option String
  | handedOut _ key => some key
  | added _ | finished _ _ => none

/-- The keys that were handed out, in order. -/
def handedOutKeys (history : List Event) : List String :=
  history.reverse.filterMap Event.handedOutKey?

namespace Usage

variable {policy : RetryPolicy} {usage later : Usage} {key : String}

/-- An event with which hand-outs and bursts stay in step: only a pending key is handed out. -/
theorem counts_cons {event : Event} {history : List Event}
    (counts : bursts key history = handOuts key history + if Pending history key then 1 else 0)
    (asked : ∀ worker, event = .handedOut worker key → Pending history key) :
    bursts key (event :: history) =
      handOuts key (event :: history) + if Pending (event :: history) key then 1 else 0 := by
  unfold handOuts at counts ⊢
  rw [bursts, counts]
  cases event with
  | added added =>
      by_cases same : added = key
      · subst same
        by_cases pending : Pending history added <;> simp [pending, Event.isHandOutOf]
      · simp [same, Event.isHandOutOf]
  | handedOut worker taken =>
      by_cases same : taken = key
      · subst same
        simp [asked worker rfl, Event.isHandOutOf]
      · simp [same, Event.isHandOutOf]
  | finished worker finished => simp [Event.isHandOutOf]

theorem Reaches.bursts_eq (reached : (initial policy).Reaches usage)
    (isOpen : usage.queue.closed = false) (key : String) :
    bursts key usage.history =
      handOuts key usage.history + if Pending usage.history key then 1 else 0 := by
  induction reached with
  | refl => simp [initial, bursts, handOuts, not_since_nil]
  | @tail before after reached step ih =>
      have wasOpen := step.isOpen isOpen
      have counts := ih wasOpen
      have sound := Reaches.sound reached
      cases step with
      | mk operation allowed runs =>
          cases Operation.change runs with
          | aside | closed => exact counts
          | ignored added => exact counts_cons counts (by simp)
          | added added => exact counts_cons counts (by simp)
          | finished worker finished => exact counts_cons counts (by simp)
          | handedOut worker taken first =>
              refine counts_cons counts ?_
              intro taker same
              have isTaken : taken = key := (Event.handedOut.inj same).2
              have ready : taken ∈ before.queue.ready := first ▸ List.mem_cons_self
              exact (sound.pending wasOpen key).mp (sound.marked key (isTaken ▸ ready))

/-- Between two hand-outs of a key it is added. An add that is still pending is not older than the
first hand-out, which would have ended it. -/
theorem Reaches.added_between (reached : (initial policy).Reaches usage)
    (isOpen : usage.queue.closed = false) {newer between older : List Event}
    {first second : Nat}
    (happened : usage.history =
      newer ++ .handedOut second key :: (between ++ .handedOut first key :: older)) :
    .added key ∈ between := by
  rcases reached.change_of_history happened with
    ⟨earlier, queue, initially, onwards, same, change⟩
  cases change with
  | handedOut _ _ ready _ =>
      have wasOpen := onwards.isOpen isOpen
      have sound := initially.sound
      have marked := sound.marked key (ready ▸ List.mem_cons_self)
      have pending := (sound.pending wasOpen key).mp marked
      rw [same] at pending
      clear same happened
      induction between with
      | nil => simp at pending
      | cons event between ih =>
          rcases since_cons.mp pending with rfl | ⟨_, pending⟩
          · exact List.mem_cons_self
          · exact List.mem_cons_of_mem _ (ih pending)

theorem Step.ready_append (step : usage.Step later) :
    ∃ newer entered, later.history = newer ++ usage.history ∧
      usage.queue.ready ++ entered = handedOutKeys newer ++ later.queue.ready := by
  cases step with
  | @mk operation event queue allowed runs =>
      refine ⟨event.toList, ?_⟩
      cases Operation.change runs with
      | aside keys | closed keys | ignored key needless keys =>
          exact ⟨[], rfl, by simp [handedOutKeys, Event.handedOutKey?, keys.ready]⟩
      | added key isOpen fresh keys =>
          refine ⟨if key ∈ usage.queue.processing then [] else [key], rfl, ?_⟩
          rw [keys.ready]
          split <;> simp [handedOutKeys, Event.handedOutKey?]
      | handedOut worker key first keys =>
          exact ⟨[], rfl, by simp [handedOutKeys, Event.handedOutKey?, first]⟩
      | finished worker key keys =>
          refine ⟨if key ∈ usage.queue.dirty ∧ usage.queue.closed = false then [key] else [],
            rfl, ?_⟩
          rw [keys.ready]
          split <;> simp [handedOutKeys, Event.handedOutKey?]

theorem handedOutKeys_append (newer older : List Event) :
    handedOutKeys (newer ++ older) = handedOutKeys older ++ handedOutKeys newer := by
  simp [handedOutKeys]

/-- The ready keys and those that have entered since are those that were handed out since and the
keys that are ready now, in this order. -/
theorem Reaches.ready_append (reaches : usage.Reaches later) :
    ∃ newer entered, later.history = newer ++ usage.history ∧
      usage.queue.ready ++ entered = handedOutKeys newer ++ later.queue.ready := by
  induction reaches with
  | refl => exact ⟨[], [], rfl, by simp [handedOutKeys]⟩
  | @tail before after _ step ih =>
      rcases ih with ⟨newer, entered, happened, inOrder⟩
      rcases step.ready_append with ⟨latest, last, lastHappened, lastInOrder⟩
      refine ⟨latest ++ newer, entered ++ last, ?_, ?_⟩
      · rw [lastHappened, happened, List.append_assoc]
      · calc usage.queue.ready ++ (entered ++ last)
          _ = handedOutKeys newer ++ (before.queue.ready ++ last) := by
              rw [← List.append_assoc, inOrder, List.append_assoc]
          _ = handedOutKeys newer ++ (handedOutKeys latest ++ after.queue.ready) := by
              rw [lastInOrder]
          _ = handedOutKeys (latest ++ newer) ++ after.queue.ready := by
              rw [handedOutKeys_append, List.append_assoc]

theorem Reaches.getElem?_handedOutKeys (reaches : usage.Reaches later) {newer : List Event}
    (happened : later.history = newer ++ usage.history) {place : Nat}
    (ready : usage.queue.ready[place]? = some key) (long : place < (handedOutKeys newer).length) :
    (handedOutKeys newer)[place]? = some key := by
  rcases reaches.ready_append with ⟨newer', entered, same, inOrder⟩
  have isNewer : newer' = newer := List.append_cancel_right (same.symm.trans happened)
  subst isNewer
  have within : place < usage.queue.ready.length := (List.getElem?_eq_some_iff.mp ready).1
  calc (handedOutKeys newer')[place]?
    _ = (handedOutKeys newer' ++ later.queue.ready)[place]? :=
        (List.getElem?_append_left long).symm
    _ = (usage.queue.ready ++ entered)[place]? := by rw [inOrder]
    _ = usage.queue.ready[place]? := List.getElem?_append_left within
    _ = some key := ready

end Usage

/-- Whoever asks for a key is given the first one that is ready. -/
theorem take_eq_of_ready {queue : WorkQueue} {key : String} {rest : List String} (worker : Nat)
    (ready : queue.ready = key :: rest) : (queue.take worker).1 = some (.key key) := by
  have takes := takes_take queue worker
  generalize queue.take worker = taken at takes ⊢
  rcases taken with ⟨handout, new⟩
  cases takes with
  | key first =>
      rw [ready] at first
      rw [(List.cons.inj first).1]
  | nothing none => simp [none] at ready

namespace Usage

variable {policy : RetryPolicy} {usage : Usage}

/-- As long as a queue has not been closed, adds of a key are answered by exactly one hand-out:
the key is dirty while its latest add is later than its latest hand-out; if it is dirty it is ready,
or will be as soon as the worker that holds it is done with it; bursts of adds and hand-outs differ
by the burst that has not been answered; and ready keys are handed out in order. -/
theorem dirty_handedOut_once (reached : (initial policy).Reaches usage)
    (isOpen : usage.queue.closed = false) (key : String) :
    (key ∈ usage.queue.dirty ↔ Pending usage.history key) ∧
      (key ∈ usage.queue.dirty → key ∉ usage.queue.processing → key ∈ usage.queue.ready) ∧
      (key ∈ usage.queue.dirty → key ∈ usage.queue.processing →
        key ∉ usage.queue.ready ∧ key ∈ (usage.queue.finish key).ready) ∧
      (bursts key usage.history =
        handOuts key usage.history + if key ∈ usage.queue.dirty then 1 else 0) ∧
      (∀ newer between older first second,
        usage.history =
          newer ++ .handedOut second key :: (between ++ .handedOut first key :: older) →
        .added key ∈ between) ∧
      (∀ rest worker, usage.queue.ready = key :: rest →
        (usage.queue.take worker).1 = some (.key key)) ∧
      ∀ later newer place, usage.Reaches later → later.history = newer ++ usage.history →
        usage.queue.ready[place]? = some key → place < (handedOutKeys newer).length →
        (handedOutKeys newer)[place]? = some key := by
  have sound := reached.sound
  refine ⟨sound.pending isOpen key, sound.queued isOpen key, ?_, ?_, ?_, ?_, ?_⟩
  · intro marked inWork
    refine ⟨fun ready => sound.idle key ready inWork, ?_⟩
    cases change_finish usage.queue 0 key with
    | finished _ _ keys =>
        rw [keys.ready, if_pos ⟨marked, isOpen⟩]
        simp
  · simp only [sound.pending isOpen key]
    exact reached.bursts_eq isOpen key
  · intro newer between older first second happened
    exact reached.added_between isOpen happened
  · intro rest worker ready
    exact take_eq_of_ready worker ready
  · intro later newer place reaches happened ready long
    exact reaches.getElem?_handedOutKeys happened ready long

/-- A key that is added twice while a worker holds it is ready once more when the worker is done. -/
theorem dirty_handedOut_once_after_burst :
    ∃ usage, (initial ⟨5, 1000⟩).Reaches usage ∧ usage.queue.closed = false ∧
      usage.history = [.added "a", .added "a", .handedOut 1 "a", .added "a"] ∧
      "a" ∈ usage.queue.dirty ∧ "a" ∉ usage.queue.ready ∧
      "a" ∈ (usage.queue.finish "a").ready ∧
      bursts "a" usage.history = 2 ∧ handOuts "a" usage.history = 1 := by
  have added : (initial ⟨5, 1000⟩).Reaches _ := .single (.mk (.add "a") trivial rfl)
  have taken := added.tail (.mk (.take 1) trivial rfl)
  have again := taken.tail (.mk (.add "a") trivial rfl)
  have reached := again.tail (.mk (.add "a") trivial rfl)
  rcases dirty_handedOut_once reached rfl "a" with ⟨marked, _, requeued, counts, _⟩
  have dirty := marked.mpr (by decide)
  rcases requeued dirty (by decide) with ⟨notReady, ready⟩
  rw [if_pos dirty] at counts
  exact ⟨_, reached, rfl, rfl, dirty, notReady, ready, counts, rfl⟩

end Usage

end VolumeAttacher.WorkQueue
