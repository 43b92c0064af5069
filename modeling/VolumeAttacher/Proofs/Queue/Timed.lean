import Mathlib.Logic.Relation
import VolumeAttacher.Proofs.Queue.Delays
import VolumeAttacher.Time.Agenda

/-!
# The timers of delayed adds

A queue with a clock, the timers that have been armed for it, and the history of what happened at
which time. A timer that is replaced by an earlier one stays armed, so that several timers of a key
may be armed at a time, for the same instant even, and each compares its own instant with the
delayed add that it finds. A timer that finds its own instant has expired: it takes the delayed add
away and adds the key in a second step, between which anything may happen. The clock goes on when
every timer that has been reached has fired and every key of an expired timer has been added.

The delayed add that is found under a key is a function of the history, namely the earliest of those
asked for since a timer of the key expired. This is the invariant (`Sound.entry`); together with the
fact that some armed timer belongs to it, it tells which timers expire and when.
-/

namespace VolumeAttacher.WorkQueue

/-- What may happen at a queue. -/
inductive Happening where
  /-- A key was to be added after a delay, while the queue was open. -/
  | asked (key : String) (delay : Nat)
  /-- A key was added at once, while the queue was open. -/
  | added (key : String)
  | expired (key : String) (due : Nat)
  /-- The key of an expired timer was added. -/
  | delivered (key : String) (due : Nat)
  /-- The key of an expired timer came too late for the queue. -/
  | dropped (key : String) (due : Nat)
  | closed
deriving DecidableEq

/-- Whether a key is added. -/
def Happening.adds (key : String) : Happening → Prop
  | added other | delivered other _ => other = key
  | asked _ _ | expired _ _ | dropped _ _ | closed => False

/-- Whether something is asked of a queue that is not its end. -/
def Happening.isRequest : Happening → Bool
  | asked _ _ | added _ => true
  | expired _ _ | delivered _ _ | dropped _ _ | closed => false

/-- The instant of a timer that has expired. -/
def Happening.due? : Happening → Option Nat
  | expired _ due | delivered _ due | dropped _ due => some due
  | asked _ _ | added _ | closed => none

/-- The times at which delayed adds of a key are due that were asked for since one of them expired.
The latest entry of a history comes first. -/
def dues (key : String) : List (Nat × Happening) → List Nat
  | [] => []
  | (time, happening) :: earlier =>
      match happening with
      | .asked other delay =>
          if other = key ∧ delay ≠ 0 then (time + delay) :: dues key earlier else dues key earlier
      | .expired other _ => if other = key then [] else dues key earlier
      | .added _ | .delivered _ _ | .dropped _ _ | .closed => dues key earlier

/-- What is noted when an operation other than a delayed add is done. -/
def Operation.happening? : Operation → Option Happening
  | add key => some (.added key)
  | close => some .closed
  | _ => none

/-- Whether an operation has nothing to do with delayed adds. -/
def Operation.isPlain : Operation → Bool
  | addAfter _ _ _ | addLater _ _ | fire _ _ | stir _ _ _ => false
  | add _ | take _ | retake _ | finish _ _ | forget _ | close => true

/-- A queue with its clock and what has happened. -/
structure Timed where
  queue : WorkQueue
  agenda : Agenda String := {}
  /-- The timers that have expired, while their keys have not been added yet. -/
  expiries : List (Nat × String) := []
  history : List (Nat × Happening) := []

namespace Timed

def initial (policy : RetryPolicy) : Timed :=
  { queue := .empty policy }

/-- Notes that something happens now. -/
def note (run : Timed) (happening : Happening) : List (Nat × Happening) :=
  (run.agenda.now, happening) :: run.history

def use (run : Timed) (operation : Operation) : Timed :=
  { run with
    queue := (operation.run run.queue).2
    history :=
      if run.queue.closed then run.history
      else operation.happening?.elim run.history run.note }

/-- Asks for a key to be added after a delay, and arms a timer if one is needed. -/
def ask (run : Timed) (key : String) (delay : Nat) : Timed :=
  let (due?, queue) := run.queue.addAfter run.agenda.now key delay
  { run with
    queue
    agenda := due?.elim run.agenda (run.agenda.schedule · key)
    history :=
      if run.queue.closed then run.history
      else if delay = 0 then (run.agenda.now, .added key) :: run.note (.asked key delay)
      else run.note (.asked key delay) }

/-- A timer fires. -/
def fire (run : Timed) (timer : Nat × String) : Timed :=
  let left :=
    { run with agenda := { run.agenda with timers := run.agenda.timers.erase timer } }
  if Table.find? run.queue.delayed timer.2 = some timer.1 then
    { left with
      queue := { run.queue with delayed := Table.erase run.queue.delayed timer.2 }
      expiries := timer :: run.expiries
      history := run.note (.expired timer.2 timer.1) }
  else left

/-- The key of an expired timer is added. -/
def settle (run : Timed) (timer : Nat × String) : Timed :=
  { run with
    queue := run.queue.add timer.2
    expiries := run.expiries.erase timer
    history := run.note
      (if run.queue.closed then .dropped timer.2 timer.1 else .delivered timer.2 timer.1) }

def waitUntil (run : Timed) (time : Nat) : Timed :=
  { run with agenda := { run.agenda with now := time } }

inductive Step (run : Timed) : Timed → Prop where
  | use (operation : Operation) (plain : operation.isPlain) : Step run (run.use operation)
  /-- Failures and wake-ups have nothing to do with delayed adds. -/
  | stir (backoff : KeyedBackoff) (signal : Signal) :
      Step run { run with queue := { run.queue with backoff, signal } }
  | ask (key : String) (delay : Nat) : Step run (run.ask key delay)
  | fire (timer : Nat × String) (armed : timer ∈ run.agenda.timers)
      (reached : Duration.roundUp timer.1 ≤ run.agenda.now) : Step run (run.fire timer)
  | settle (timer : Nat × String) (expired : timer ∈ run.expiries) : Step run (run.settle timer)
  | wait (time : Nat) (isLater : run.agenda.now ≤ time) (allAdded : run.expiries = [])
      (noneSkipped : ∀ timer ∈ run.agenda.timers, time ≤ Duration.roundUp timer.1) :
      Step run (run.waitUntil time)

abbrev Reaches : Timed → Timed → Prop :=
  Relation.ReflTransGen Step

variable {policy : RetryPolicy} {run later : Timed} {key : String} {delay due time : Nat}

end Timed

section

variable {queue new : WorkQueue} {key : String} {delay now : Nat}

/-- A delayed add that is already due by then is kept, and no timer is armed. -/
theorem addAfter_cases (isOpen : queue.closed = false) (now : Nat) (key : String)
    (later : delay ≠ 0) :
    (∃ earlier, Table.find? queue.delayed key = some earlier ∧ earlier ≤ now + delay ∧
      queue.addAfter now key delay = (none, queue)) ∨
    (∀ other, Table.find? queue.delayed key = some other → now + delay < other) ∧
      queue.addAfter now key delay = (some (now + delay),
        { queue with delayed := Table.insert queue.delayed key (now + delay) }) := by
  unfold addAfter
  rw [if_neg later, if_neg (by simp [isOpen])]
  dsimp only
  split
  next earlier found =>
      split
      next isEarlier => exact .inl ⟨earlier, found, isEarlier, rfl⟩
      next isLater =>
          refine .inr ⟨?_, rfl⟩
          intro other same
          rw [found] at same
          cases same
          omega
  next missing => exact .inr ⟨fun other found => by simp [missing] at found, rfl⟩

theorem addAfter_of_closed (isClosed : queue.closed = true) :
    queue.addAfter now key delay = (none, queue) := by
  unfold addAfter add
  simp [isClosed]

theorem Operation.delayed_of_isPlain {operation : Operation} {event : Option Event}
    (plain : operation.isPlain) (runs : operation.run queue = (event, new)) :
    new.delayed = queue.delayed := by
  cases operation with (rw [run, Prod.mk.injEq] at runs; rcases runs with ⟨-, rfl⟩)
  | add key => exact (sameRest_add queue key).delayed
  | take worker => exact (sameRest_take queue worker).delayed
  | retake worker => exact (sameRest_retake queue worker).delayed
  | finish worker key => exact (sameRest_finish queue key).delayed
  | forget | close => rfl
  | addAfter | addLater | fire | stir => contradiction

end

namespace Timed

variable {policy : RetryPolicy} {run later : Timed} {key : String} {delay due time : Nat}

/-- What may come of asking for a delayed add. -/
inductive Asked (run : Timed) (key : String) (delay : Nat) : Timed → Prop where
  | refused (isClosed : run.queue.closed = true) : Asked run key delay run
  | atOnce (isOpen : run.queue.closed = false) (noDelay : delay = 0) :
      Asked run key delay
        { run with
          queue := run.queue.add key
          history := (run.agenda.now, .added key) :: run.note (.asked key delay) }
  | kept (isOpen : run.queue.closed = false) (isDelayed : delay ≠ 0) (earlier : Nat)
      (found : Table.find? run.queue.delayed key = some earlier)
      (isEarlier : earlier ≤ run.agenda.now + delay) :
      Asked run key delay { run with history := run.note (.asked key delay) }
  | armed (isOpen : run.queue.closed = false) (isDelayed : delay ≠ 0)
      (isEarliest : ∀ other, Table.find? run.queue.delayed key = some other →
        run.agenda.now + delay < other) :
      Asked run key delay
        { run with
          queue := { run.queue with
            delayed := Table.insert run.queue.delayed key (run.agenda.now + delay) }
          agenda := run.agenda.schedule (run.agenda.now + delay) key
          history := run.note (.asked key delay) }

theorem asked_ask (run : Timed) (key : String) (delay : Nat) :
    Asked run key delay (run.ask key delay) := by
  unfold ask
  cases shut : run.queue.closed with
  | true =>
      rw [addAfter_of_closed shut]
      exact .refused shut
  | false =>
      by_cases noDelay : delay = 0
      · simp only [noDelay, addAfter, if_true]
        exact .atOnce shut rfl
      · rcases addAfter_cases shut run.agenda.now key noDelay with
          ⟨earlier, found, isEarlier, same⟩ | ⟨isEarliest, same⟩
        · rw [same]
          simp only [noDelay, if_false]
          exact .kept shut noDelay earlier found isEarlier
        · rw [same]
          simp only [noDelay, if_false]
          exact .armed shut noDelay isEarliest

structure Sound (run : Timed) : Prop where
  entry : ∀ key, Table.find? run.queue.delayed key = (dues key run.history).min?
  armed : ∀ key due, Table.find? run.queue.delayed key = some due →
    (due, key) ∈ run.agenda.timers
  ahead : ∀ timer ∈ run.agenda.timers, run.agenda.now ≤ Duration.roundUp timer.1
  inTime : ∀ timer ∈ run.expiries, run.agenda.now = Duration.roundUp timer.1

theorem sound_initial (policy : RetryPolicy) : (initial policy).Sound where
  entry := fun _ => rfl
  armed := fun key due found => by simp [initial, empty] at found
  ahead := fun timer armed => by simp [initial] at armed
  inTime := fun timer expired => by simp [initial] at expired

theorem Sound.of_same (sound : run.Sound) (delayed : later.queue.delayed = run.queue.delayed)
    (agenda : later.agenda = run.agenda) (expiries : later.expiries ⊆ run.expiries)
    (sameDues : ∀ key, dues key later.history = dues key run.history) : later.Sound where
  entry key := by rw [delayed, sameDues, sound.entry]
  armed key due found := by
    rw [delayed] at found
    rw [agenda]
    exact sound.armed key due found
  ahead := by
    rw [agenda]
    exact sound.ahead
  inTime timer expired := by
    rw [agenda]
    exact sound.inTime timer (expiries expired)

@[simp]
theorem now_fire (run : Timed) (timer : Nat × String) :
    (run.fire timer).agenda.now = run.agenda.now := by
  unfold Timed.fire
  dsimp only
  split <;> rfl

@[simp]
theorem now_waitUntil (run : Timed) (time : Nat) : (run.waitUntil time).agenda.now = time := rfl

/-- What an operation other than a delayed add leaves in the history. -/
theorem history_use (run : Timed) (operation : Operation) :
    (run.use operation).history = run.history ∨
      (∃ key, (run.use operation).history = run.note (.added key)) ∨
        operation = .close ∧ (run.use operation).history = run.note .closed := by
  unfold Timed.use
  dsimp only
  split
  · exact .inl rfl
  · cases operation with
    | add key => exact .inr (.inl ⟨key, rfl⟩)
    | close => exact .inr (.inr ⟨rfl, rfl⟩)
    | addAfter | addLater | fire | take | retake | finish | forget | stir => exact .inl rfl

theorem Sound.use (sound : run.Sound) {operation : Operation} (plain : operation.isPlain) :
    (run.use operation).Sound := by
  refine sound.of_same (operation.delayed_of_isPlain plain rfl) rfl (List.Subset.refl _) ?_
  intro key
  rcases history_use run operation with same | ⟨added, same⟩ | ⟨_, same⟩ <;> rw [same] <;> rfl

theorem Sound.asked (sound : run.Sound) (asked : Asked run key delay later) : later.Sound := by
  cases asked with
  | refused => exact sound
  | atOnce isOpen noDelay =>
      refine sound.of_same (sameRest_add run.queue key).delayed rfl (List.Subset.refl _) ?_
      intro other
      simp [dues, note, noDelay]
  | kept isOpen isDelayed earlier found isEarlier =>
      refine ⟨?_, sound.armed, sound.ahead, sound.inTime⟩
      intro other
      by_cases same : key = other
      · subst same
        have least := sound.entry key
        rw [found] at least
        simp only [dues, note, isDelayed, ne_eq, not_false_eq_true, and_self, if_true,
          List.min?_cons, ← least, found, Option.elim_some]
        rw [Nat.min_eq_right isEarlier]
      · simp [dues, note, same, sound.entry]
  | armed isOpen isDelayed isEarliest =>
      refine ⟨?_, ?_, ?_, sound.inTime⟩
      · intro other
        by_cases same : key = other
        · subst same
          simp only [dues, note, isDelayed, ne_eq, not_false_eq_true, and_self, if_true,
            List.min?_cons, Table.find?_insert]
          cases least : (dues key run.history).min? with
          | none => rfl
          | some other =>
              have isLater := isEarliest other ((sound.entry key).trans least)
              rw [Option.elim_some, Nat.min_eq_left (Nat.le_of_lt isLater)]
        · simp [dues, note, same, Ne.symm same, sound.entry]
      · intro other due found
        simp only [Table.find?_insert] at found
        split at found
        next same =>
            cases found
            subst same
            exact List.mem_append_right _ List.mem_cons_self
        next => exact List.mem_append_left _ (sound.armed other due found)
      · intro timer isArmed
        rcases List.mem_append.mp isArmed with before | new
        · exact sound.ahead timer before
        · rw [List.mem_singleton.mp new]
          have reached := Duration.le_roundUp (run.agenda.now + delay)
          exact Nat.le_trans (Nat.le_add_right _ _) reached

/-- A timer that does not find its own instant changes nothing, and there is no other timer for
the instant of a delayed add than those that have been armed for it. -/
theorem Sound.fire (sound : run.Sound) {timer : Nat × String} (armed : timer ∈ run.agenda.timers)
    (reached : Duration.roundUp timer.1 ≤ run.agenda.now) : (run.fire timer).Sound := by
  unfold Timed.fire
  dsimp only
  split
  next found =>
      refine ⟨?_, ?_, ?_, ?_⟩
      · intro key
        by_cases same : timer.2 = key
        · simp [dues, note, same]
        · simp [dues, note, same, Ne.symm same, sound.entry]
      · intro key due foundDue
        simp only [Table.find?_erase] at foundDue
        split at foundDue
        · contradiction
        next other =>
            have different : (due, key) ≠ timer := by
              rintro rfl
              exact other rfl
            exact (List.mem_erase_of_ne different).mpr (sound.armed key due foundDue)
      · intro other armed
        exact sound.ahead other (List.mem_of_mem_erase armed)
      · intro other expired
        rcases List.mem_cons.mp expired with rfl | expired
        · exact Nat.le_antisymm (sound.ahead other armed) reached
        · exact sound.inTime other expired
  next superseded =>
      refine ⟨sound.entry, ?_, ?_, sound.inTime⟩
      · intro key due foundDue
        have different : (due, key) ≠ timer := by
          rintro rfl
          exact superseded foundDue
        exact (List.mem_erase_of_ne different).mpr (sound.armed key due foundDue)
      · intro other armed
        exact sound.ahead other (List.mem_of_mem_erase armed)

theorem Sound.settle (sound : run.Sound) (timer : Nat × String) : (run.settle timer).Sound := by
  refine sound.of_same (sameRest_add run.queue timer.2).delayed rfl (List.erase_subset) ?_
  intro key
  unfold Timed.settle note
  dsimp only
  split <;> rfl

theorem Sound.step (sound : run.Sound) (step : run.Step later) : later.Sound := by
  cases step with
  | use operation plain => exact sound.use plain
  | stir backoff signal => exact sound.of_same rfl rfl (List.Subset.refl _) fun _ => rfl
  | ask key delay => exact sound.asked (asked_ask run key delay)
  | fire timer armed reached => exact sound.fire armed reached
  | settle timer expired => exact sound.settle timer
  | wait time isLater allAdded noneSkipped =>
      refine ⟨sound.entry, sound.armed, noneSkipped, ?_⟩
      intro timer expired
      rw [waitUntil, allAdded] at expired
      contradiction

theorem Reaches.sound (reaches : run.Reaches later) (sound : run.Sound) : later.Sound := by
  induction reaches with
  | refl => exact sound
  | tail _ step ih => exact ih.step step

/-- What a step notes, with what it does to the timers that have expired. -/
inductive Notes (run later : Timed) : List Happening → Prop where
  | requests (fresh : List Happening) (requests : ∀ happening ∈ fresh, happening.isRequest)
      (closed : later.queue.closed = run.queue.closed)
      (expiries : later.expiries = run.expiries) : Notes run later fresh
  | closed (isClosed : later.queue.closed = true) (expiries : later.expiries = run.expiries) :
      Notes run later [.closed]
  | expired (key : String) (due : Nat) (armed : (due, key) ∈ run.agenda.timers)
      (found : Table.find? run.queue.delayed key = some due)
      (reached : Duration.roundUp due ≤ run.agenda.now)
      (closed : later.queue.closed = run.queue.closed)
      (expiries : later.expiries = (due, key) :: run.expiries) :
      Notes run later [.expired key due]
  | settled (key : String) (due : Nat) (expired : (due, key) ∈ run.expiries)
      (closed : later.queue.closed = run.queue.closed)
      (expiries : later.expiries = run.expiries.erase (due, key)) :
      Notes run later [if run.queue.closed then .dropped key due else .delivered key due]

theorem notes_use (run : Timed) (operation : Operation) :
    ∃ fresh, (run.use operation).history = fresh.map (run.agenda.now, ·) ++ run.history ∧
      run.Notes (run.use operation) fresh := by
  by_cases closing : operation = .close
  · subst closing
    cases shut : run.queue.closed with
    | true =>
        have closed : (run.use .close).queue.closed = run.queue.closed := shut.symm
        exact ⟨[], by simp [Timed.use, shut], .requests [] (by simp) closed rfl⟩
    | false =>
        exact ⟨[.closed], by simp [Timed.use, shut, Operation.happening?, note], .closed rfl rfl⟩
  · have closed : (run.use operation).queue.closed = run.queue.closed := by
      cases shut : run.queue.closed with
      | true => exact operation.isClosed rfl shut
      | false => exact operation.isOpen rfl shut closing
    rcases history_use run operation with same | ⟨key, same⟩ | ⟨closes, _⟩
    · exact ⟨[], same, .requests [] (by simp) closed rfl⟩
    · exact ⟨[.added key], same, .requests _ (by simp [Happening.isRequest]) closed rfl⟩
    · exact absurd closes closing

theorem Step.notes (step : run.Step later) :
    ∃ fresh, later.history = fresh.map (run.agenda.now, ·) ++ run.history ∧
      run.Notes later fresh := by
  cases step with
  | use operation plain => exact notes_use run operation
  | stir | wait => exact ⟨[], rfl, .requests [] (by simp) rfl rfl⟩
  | ask key delay =>
      have asked := asked_ask run key delay
      generalize run.ask key delay = new at asked ⊢
      cases asked with
      | refused => exact ⟨[], rfl, .requests [] (by simp) rfl rfl⟩
      | atOnce =>
          have closed := (sameRest_add run.queue key).closed
          exact ⟨[_, _], rfl, .requests _ (by simp [Happening.isRequest]) closed rfl⟩
      | kept | armed =>
          exact ⟨[_], rfl, .requests _ (by simp [Happening.isRequest]) rfl rfl⟩
  | fire timer armed reached =>
      unfold Timed.fire
      dsimp only
      split
      next found => exact ⟨[_], rfl, .expired timer.2 timer.1 armed found reached rfl rfl⟩
      next => exact ⟨[], rfl, .requests [] (by simp) rfl rfl⟩
  | settle timer expired =>
      have closed := (sameRest_add run.queue timer.2).closed
      exact ⟨[_], rfl, .settled timer.2 timer.1 expired closed rfl⟩

end Timed

end VolumeAttacher.WorkQueue
