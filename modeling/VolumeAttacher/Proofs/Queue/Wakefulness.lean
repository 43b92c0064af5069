import Mathlib.Logic.Function.Basic
import Mathlib.Logic.Relation
import VolumeAttacher.Proofs.Queue.Waking

/-!
# Nobody waits in vain

An operation of a queue is not one step. Whoever adds a key puts it among the ready ones first, and
wakes a worker afterwards; a worker in search of a key begins to wait, looks, perhaps wakes another
one, and only then goes away with what it has found. In between, others may act. A `Workshop` is a
queue with its workers, each at some place in its search, and with the chores that others have yet
to do; its steps are the single ones.

Wake-ups get merged, as a signal keeps one permit at most, and a worker may use up a wake-up and
find the key gone. What carries over is that as long as a key is ready, somebody is alert: a wake-up
has not been used, or will be given, or some worker is about to look.
-/

namespace VolumeAttacher

namespace Signal

variable {signal : Signal} {task other : Nat}

/-- Whether a wake-up has been given that has not been used: it is kept as the permit, or the task
that was woken alone has not resumed. -/
def IsCalling (signal : Signal) : Prop :=
  signal.permit = true ∨ ∃ task, (task, WakeUp.alone) ∈ signal.woken

theorem isCalling_wakeOne (signal : Signal) : signal.wakeOne.IsCalling := by
  unfold wakeOne
  split
  · exact .inl rfl
  next task rest _ =>
      right
      exact ⟨task, by simp⟩

theorem IsCalling.wakeAll (calling : signal.IsCalling) : signal.wakeAll.IsCalling := by
  rcases calling with permit | ⟨task, woken⟩
  · exact .inl permit
  · right
    exact ⟨task, List.mem_append_left _ woken⟩

/-- A task that gives up passes on the wake-up that was given to it alone. -/
theorem IsCalling.disarm (calling : signal.IsCalling) (task : Nat) :
    (signal.disarm task).IsCalling := by
  unfold Signal.disarm
  dsimp only
  split
  · apply isCalling_wakeOne
  next unused =>
      rcases calling with permit | ⟨other, woken⟩
      · exact .inl permit
      · right
        refine ⟨other, ?_⟩
        have isOther : other ≠ task := by
          rintro rfl
          simp [woken] at unused
        simp [woken, isOther]

/-- Whether a permit is kept only while nobody waits. -/
def KeepsPermit (signal : Signal) : Prop :=
  signal.permit = true → signal.waiting = []

theorem KeepsPermit.wakeOne (keeps : signal.KeepsPermit) : signal.wakeOne.KeepsPermit := by
  intro permit
  unfold Signal.wakeOne at permit ⊢
  split
  next nobody => exact nobody
  next task rest first =>
      rw [first] at permit
      simp [keeps permit] at first

theorem KeepsPermit.disarm (keeps : signal.KeepsPermit) (task : Nat) :
    (signal.disarm task).KeepsPermit := by
  have left : ({ signal with
      waiting := signal.waiting.filter (· ≠ task)
      woken := signal.woken.filter fun entry => entry.1 ≠ task } : Signal).KeepsPermit := by
    intro permit
    simp [keeps permit]
  unfold Signal.disarm
  dsimp only
  split
  · exact left.wakeOne
  · exact left

theorem keepsPermit_arm (signal : Signal) (task : Nat) : (signal.arm task).2.KeepsPermit := by
  unfold Signal.arm
  split
  next => intro permit; contradiction
  next noPermit => intro permit; exact absurd permit noPermit

theorem known_arm (signal : Signal) (task : Nat) :
    (signal.arm task).2.known.Perm signal.known ∨
      (signal.arm task).2.known.Perm (task :: signal.known) := by
  unfold arm
  split
  · exact .inl (List.Perm.refl _)
  · right
    simp only [known, awake, List.append_assoc, List.singleton_append]
    exact List.perm_middle

theorem resume_of_not_awake (asleep : task ∉ signal.awake) : signal.resume task = signal := by
  have others : signal.woken.filter (fun entry => entry.1 ≠ task) = signal.woken := by
    refine List.filter_eq_self.mpr fun entry woken => ?_
    have isOther : entry.1 ≠ task := fun same => asleep (List.mem_map.mpr ⟨entry, woken, same⟩)
    simpa using isOther
  rw [resume, others]

end Signal

namespace WorkQueue

/-- What the add of a key does before somebody is woken, and whether somebody is to be woken. -/
def mark (queue : WorkQueue) (key : String) : Bool × WorkQueue :=
  if queue.closed || queue.dirty.contains key then (false, queue)
  else
    let marked := { queue with dirty := queue.dirty ++ [key] }
    if queue.processing.contains key then (false, marked)
    else (true, { marked with ready := queue.ready ++ [key] })

/-- What a worker that is done with a key does before somebody is woken, and whether somebody is to
be woken. -/
def release (queue : WorkQueue) (key : String) : Bool × WorkQueue :=
  let released := { queue with processing := queue.processing.filter (· ≠ key) }
  if queue.dirty.contains key && !queue.closed then
    (true, { released with ready := queue.ready ++ [key] })
  else (false, released)

/-- What a worker finds when it looks, and whether it is to wake another one. -/
def pick? (queue : WorkQueue) : Option ((Handout × Bool) × WorkQueue) :=
  match queue.ready with
  | key :: ready =>
      some ((.key key, !ready.isEmpty),
        { queue with
          ready
          dirty := queue.dirty.filter (· ≠ key)
          processing := queue.processing ++ [key] })
  | [] => if queue.closed then some ((.ended, false), queue) else none

def wakeIf (queue : WorkQueue) (owed : Bool) : WorkQueue :=
  if owed then queue.wakeOne else queue

variable {queue new : WorkQueue} {key : String} {handout : Handout} {owed : Bool}

theorem add_eq (queue : WorkQueue) (key : String) :
    queue.add key = (queue.mark key).2.wakeIf (queue.mark key).1 := by
  unfold add mark wakeIf
  split
  · rfl
  · dsimp only
    split <;> rfl

theorem handOut?_eq (queue : WorkQueue) :
    queue.handOut? = queue.pick?.map fun picked => (picked.1.1, picked.2.wakeIf picked.1.2) := by
  unfold handOut? pick? wakeIf
  cases queue.ready with
  | nil => cases queue.closed <;> rfl
  | cons key rest => cases rest <;> rfl

theorem mark_cases (queue : WorkQueue) (key : String) :
    (queue.mark key).2.signal = queue.signal ∧ (queue.mark key).2.closed = queue.closed ∧
      ((queue.mark key).1 = false → (queue.mark key).2.ready = queue.ready) := by
  unfold mark
  split
  · simp
  · dsimp only
    split <;> simp

theorem release_cases (queue : WorkQueue) (key : String) :
    (queue.release key).2.signal = queue.signal ∧
      (queue.release key).2.closed = queue.closed ∧
      ((queue.release key).1 = false → (queue.release key).2.ready = queue.ready) := by
  unfold release
  dsimp only
  split <;> simp

theorem pick?_eq_some (picked : queue.pick? = some ((handout, owed), new)) :
    new.signal = queue.signal ∧ new.closed = queue.closed ∧ (owed = false → new.ready = []) := by
  unfold pick? at picked
  split at picked
  next key rest _ =>
      cases picked
      simp
  next nothing =>
      split at picked
      · cases picked
        simp [nothing]
      · contradiction

theorem pick?_eq_none (nothing : queue.pick? = none) :
    queue.ready = [] ∧ queue.closed = false := by
  unfold pick? at nothing
  split at nothing
  · contradiction
  next none =>
      split at nothing
      · contradiction
      next isOpen => exact ⟨none, by simpa using isOpen⟩

/-- Where a worker is in its search for a key. -/
inductive Place where
  /-- It has not begun, or has gone. -/
  | away
  /-- It is about to begin to wait. -/
  | coming
  /-- It has begun to wait, or has taken a permit, and is about to look. -/
  | looking
  /-- It has found something; the flag tells whether it is to wake another one before it goes. -/
  | found (handout : Handout) (owes : Bool)
  /-- It has found nothing, and goes on only if it does not wait any more. -/
  | resting
  | holding (key : String)
deriving DecidableEq, Repr

/-- Whether a worker is about to look, or to wake another one. -/
def Place.isSeeking : Place → Bool
  | coming | looking | found _ true => true
  | _ => false

/-- Whether a worker may wait, or have been woken. -/
def Place.isInside : Place → Bool
  | looking | found _ _ | resting => true
  | _ => false

def Handout.place : Handout → Place
  | .key key => .holding key
  | .ended => .away

/-- What is left to be done of an operation by somebody who does not search for a key. -/
inductive Chore where
  | add (key : String)
  | wakeOne
  | wakeAll
deriving DecidableEq, Repr

/-- A queue with its workers and the chores that are to be done. -/
structure Workshop where
  queue : WorkQueue
  places : Nat → Place
  chores : List Chore

namespace Workshop

def initial (policy : RetryPolicy) : Workshop :=
  ⟨.empty policy, fun _ => .away, []⟩

def move (shop : Workshop) (queue : WorkQueue) (worker : Nat) (place : Place) : Workshop :=
  { shop with queue, places := Function.update shop.places worker place }

def call (owes : Bool) : List Chore :=
  if owes then [.wakeOne] else []

/-- The single steps by which operations go on that have begun. -/
inductive Acts (shop : Workshop) : Workshop → Prop
  | begin {worker : Nat} (comes : shop.places worker = .coming) :
      Acts shop (shop.move (shop.queue.arm worker).2 worker .looking)
  | find {worker : Nat} {handout : Handout} {owes : Bool} {queue : WorkQueue}
      (looks : shop.places worker = .looking)
      (picked : shop.queue.pick? = some ((handout, owes), queue)) :
      Acts shop (shop.move queue worker (.found handout owes))
  | rest {worker : Nat} (looks : shop.places worker = .looking)
      (nothing : shop.queue.pick? = none) :
      Acts shop (shop.move shop.queue worker .resting)
  | call {worker : Nat} {handout : Handout} (owes : shop.places worker = .found handout true) :
      Acts shop (shop.move shop.queue.wakeOne worker (.found handout false))
  | leave {worker : Nat} {handout : Handout} (finds : shop.places worker = .found handout false) :
      Acts shop (shop.move (shop.queue.disarm worker) worker handout.place)
  | resume {worker : Nat} (rests : shop.places worker = .resting)
      (awake : worker ∉ shop.queue.signal.waiting) :
      Acts shop (shop.move { shop.queue with signal := shop.queue.signal.resume worker } worker
        .coming)
  | add (before after : List Chore) {key : String}
      (chores : shop.chores = before ++ .add key :: after) :
      Acts shop ⟨(shop.queue.mark key).2, shop.places,
        before ++ Workshop.call (shop.queue.mark key).1 ++ after⟩
  | wakeOne (before after : List Chore) (chores : shop.chores = before ++ .wakeOne :: after) :
      Acts shop ⟨shop.queue.wakeOne, shop.places, before ++ after⟩
  | wakeAll (before after : List Chore) (chores : shop.chores = before ++ .wakeAll :: after) :
      Acts shop ⟨{ shop.queue with signal := shop.queue.signal.wakeAll }, shop.places,
        before ++ after⟩

/-- What may come at any time. A worker may hold its key as long as it likes, so that being done
with it is not among the steps by which somebody goes on. -/
inductive Meets (shop : Workshop) : Workshop → Prop
  /-- Somebody is about to add a key, or a timer for one has fired. -/
  | add (key : String) : Meets shop { shop with chores := .add key :: shop.chores }
  /-- Delayed adds and failures are noted or dropped. -/
  | note (delayed : Table Nat) (backoff : KeyedBackoff) :
      Meets shop { shop with queue := { shop.queue with delayed, backoff } }
  | start {worker : Nat} (isAway : shop.places worker = .away) :
      Meets shop (shop.move shop.queue worker .coming)
  | giveUp {worker : Nat} (rests : shop.places worker = .resting) :
      Meets shop (shop.move (shop.queue.disarm worker) worker .away)
  | finish {worker : Nat} {key : String} (holds : shop.places worker = .holding key) :
      Meets shop
        { shop.move (shop.queue.release key).2 worker .coming with
          chores := call (shop.queue.release key).1 ++ shop.chores }
  | close :
      Meets shop
        { shop with
          queue := { shop.queue with closed := true }
          chores := .wakeAll :: shop.chores }
  /-- Which of those who wait is woken first is left open. -/
  | reorder {waiting : List Nat} (perm : waiting.Perm shop.queue.signal.waiting) :
      Meets shop
        { shop with
          queue := { shop.queue with signal := { shop.queue.signal with waiting } } }

abbrev Reaches : Workshop → Workshop → Prop :=
  Relation.ReflTransGen fun shop later => Acts shop later ∨ Meets shop later

/-- Whether nobody can go on. -/
def IsQuiet (shop : Workshop) : Prop :=
  ∀ later, ¬shop.Acts later

variable {policy : RetryPolicy} {shop later : Workshop} {worker : Nat}

/-- Whether those who are known to the signal are workers within their search, each known once, and
a permit is kept only while nobody waits. -/
structure Seats (signal : Signal) (places : Nat → Place) : Prop where
  nodup : signal.known.Nodup
  inside : ∀ worker ∈ signal.known, (places worker).isInside
  permit : signal.KeepsPermit

variable {old new : Signal} {places : Nat → Place} {place : Place}

theorem Seats.stirred (seats : Seats old places) (stirs : old.Stirs new)
    (permit : new.KeepsPermit) : Seats new places := by
  refine ⟨stirs.known.nodup_iff.mpr seats.nodup, ?_, permit⟩
  intro worker within
  exact seats.inside worker (stirs.known.mem_iff.mp within)

theorem Seats.moved (seats : Seats old places)
    (isInside : worker ∈ old.known → place.isInside) :
    Seats old (Function.update places worker place) := by
  refine ⟨seats.nodup, ?_, seats.permit⟩
  intro other within
  by_cases same : other = worker
  · subst same
    simpa using isInside within
  · simpa [same] using seats.inside other within

theorem Seats.left (seats : Seats old places) (loses : old.Loses worker new)
    (permit : new.KeepsPermit) : Seats new (Function.update places worker place) := by
  have known (other : Nat) : other ∈ new.known ↔ other ∈ old.known ∧ other ≠ worker := by
    simp [loses.known.mem_iff]
  refine ⟨loses.known.nodup_iff.mpr (seats.nodup.filter _), ?_, permit⟩
  intro other within
  rcases (known other).mp within with ⟨wasKnown, isOther⟩
  simpa [isOther] using seats.inside other wasKnown

theorem Seats.armed (seats : Seats old places) (unknown : worker ∉ old.known) :
    Seats (old.arm worker).2 (Function.update places worker .looking) := by
  have permit := old.keepsPermit_arm worker
  rcases old.known_arm worker with perm | perm
  · have seats : Seats (old.arm worker).2 places :=
      ⟨perm.nodup_iff.mpr seats.nodup, fun other within =>
        seats.inside other (perm.mem_iff.mp within), permit⟩
    apply seats.moved
    intro _
    rfl
  · refine ⟨perm.nodup_iff.mpr (List.nodup_cons.mpr ⟨unknown, seats.nodup⟩), ?_, permit⟩
    intro other within
    rcases List.mem_cons.mp (perm.mem_iff.mp within) with rfl | wasKnown
    · simp [Place.isInside]
    · have isOther : other ≠ worker := fun same => unknown (same ▸ wasKnown)
      simpa [isOther] using seats.inside other wasKnown

theorem Seats.not_known (seats : Seats old places) (isAt : places worker = place)
    (outside : place.isInside = false) : worker ∉ old.known := by
  intro within
  have inside := seats.inside worker within
  simp [isAt, outside] at inside

theorem Seats.not_waiting (seats : Seats old places) {wakeUp : WakeUp}
    (woken : (worker, wakeUp) ∈ old.woken) : worker ∉ old.waiting := by
  have awake : worker ∈ old.awake := List.mem_map.mpr ⟨_, woken, rfl⟩
  intro waits
  exact (List.nodup_append.mp seats.nodup).2.2 worker waits worker awake rfl

/-- Whether a wake-up has not been used, or will be given, or some worker is about to look. -/
def IsAlert (shop : Workshop) : Prop :=
  shop.queue.signal.IsCalling ∨ .wakeOne ∈ shop.chores ∨ ∃ worker, (shop.places worker).isSeeking

structure Sound (shop : Workshop) : Prop where
  seats : Seats shop.queue.signal shop.places
  alert : shop.queue.ready ≠ [] → shop.IsAlert
  /-- Whoever waits at a closed queue will be told. -/
  told : shop.queue.closed = true → .wakeAll ∈ shop.chores ∨
    ∀ worker ∈ shop.queue.signal.waiting, shop.places worker ≠ .resting

theorem sound_initial : (initial policy).Sound where
  seats := ⟨List.nodup_nil, fun _ => (nomatch ·), fun _ => rfl⟩
  alert ready := absurd rfl ready
  told closed := nomatch closed

variable {queue : WorkQueue}

theorem isAlert_of_seeking (seeking : place.isSeeking) :
    (shop.move queue worker place).IsAlert := by
  right
  right
  refine ⟨worker, ?_⟩
  simpa [move] using seeking

/-- A worker that is not seeking leaves others alert, if the wake-up that it has been given is not
lost. -/
theorem IsAlert.moved (alert : shop.IsAlert) (idle : (shop.places worker).isSeeking = false)
    (calling : shop.queue.signal.IsCalling → queue.signal.IsCalling) :
    (shop.move queue worker place).IsAlert := by
  rcases alert with calls | chore | ⟨other, seeks⟩
  · exact .inl (calling calls)
  · exact .inr (.inl chore)
  · right
    right
    refine ⟨other, ?_⟩
    have isOther : other ≠ worker := by
      rintro rfl
      simp [seeks] at idle
    simpa [move, isOther] using seeks

/-- Sound is whatever tells no one less of a closed queue and lets no one else wait at it. -/
theorem Sound.kept (sound : shop.Sound) (seats : Seats later.queue.signal later.places)
    (alert : later.queue.ready ≠ [] → later.IsAlert)
    (closed : later.queue.closed = shop.queue.closed)
    (chores : .wakeAll ∈ shop.chores → .wakeAll ∈ later.chores)
    (waits : ∀ worker ∈ later.queue.signal.waiting, later.places worker = .resting →
      worker ∈ shop.queue.signal.waiting ∧ shop.places worker = .resting) : later.Sound := by
  refine ⟨seats, alert, ?_⟩
  intro isClosed
  rcases sound.told (closed.symm.trans isClosed) with chore | nobody
  · exact .inl (chores chore)
  · right
    intro worker waiting rests
    rcases waits worker waiting rests with ⟨waited, rested⟩
    exact nobody worker waited rested

theorem Sound.moved (sound : shop.Sound)
    (seats : Seats queue.signal (Function.update shop.places worker place))
    (alert : queue.ready ≠ [] → (shop.move queue worker place).IsAlert)
    (closed : queue.closed = shop.queue.closed) (goesOn : place ≠ .resting)
    (waiting : queue.signal.waiting ⊆ shop.queue.signal.waiting ++ [worker]) :
    (shop.move queue worker place).Sound := by
  refine sound.kept seats alert closed id ?_
  intro other waits rests
  have isOther : other ≠ worker := by
    rintro rfl
    exact goesOn (by simpa [move] using rests)
  exact ⟨by simpa [isOther] using waiting waits, by simpa [move, isOther] using rests⟩

/-- What is ready stays noticed: each step gives a wake-up, or leaves somebody about to look or to
wake another one, or it is of a worker that was none of this. Nobody comes to rest while there is a
key or the queue is closed. -/
theorem Sound.acts (sound : shop.Sound) (acts : shop.Acts later) : later.Sound := by
  cases acts with
  | @begin worker comes =>
      have unknown := sound.seats.not_known comes rfl
      refine sound.moved (sound.seats.armed unknown) ?_ rfl (by simp) ?_
      · intro _
        exact isAlert_of_seeking rfl
      · simp only [WorkQueue.arm, Signal.arm]
        split <;> simp
  | @find worker handout owes queue looks picked =>
      rcases pick?_eq_some picked with ⟨signal, closed, last⟩
      refine sound.moved ?_ ?_ closed (by simp) (by simp [signal])
      · rw [signal]
        exact sound.seats.moved fun _ => rfl
      · intro ready
        cases owes with
        | true => exact isAlert_of_seeking rfl
        | false => exact absurd (last rfl) ready
  | @rest worker looks nothing =>
      rcases pick?_eq_none nothing with ⟨none, isOpen⟩
      refine ⟨sound.seats.moved fun _ => rfl, fun ready => absurd none ready, ?_⟩
      intro isClosed
      exact absurd (isClosed.symm.trans isOpen) (by simp)
  | @call worker handout owes =>
      have stirs := Signal.stirs_wakeOne shop.queue.signal
      refine sound.moved ?_ ?_ rfl (by simp) ?_
      · exact (sound.seats.stirred stirs sound.seats.permit.wakeOne).moved fun _ => rfl
      · exact fun _ => .inl (Signal.isCalling_wakeOne _)
      · exact fun _ waits => List.mem_append_left _ (stirs.waiting waits)
  | @leave worker handout finds =>
      have loses := Signal.loses_disarm shop.queue.signal worker
      refine sound.moved (sound.seats.left loses (sound.seats.permit.disarm worker)) ?_ rfl ?_ ?_
      · intro ready
        exact (sound.alert ready).moved (by simp [finds, Place.isSeeking]) fun calls =>
          calls.disarm worker
      · cases handout <;> simp [Handout.place]
      · exact fun _ waits => List.mem_append_left _ (List.mem_filter.mp (loses.waiting waits)).1
  | @resume worker rests awake =>
      have loses : shop.queue.signal.Loses worker (shop.queue.signal.resume worker) := by
        refine ⟨by rw [Signal.known_resume _ _ awake], ?_⟩
        intro other waits
        have isOther : other ≠ worker := fun same => awake (same ▸ waits)
        exact List.mem_filter.mpr ⟨waits, by simpa using isOther⟩
      refine sound.moved (sound.seats.left loses sound.seats.permit) ?_ rfl (by simp) ?_
      · exact fun _ => isAlert_of_seeking rfl
      · exact List.subset_append_left _ _
  | @add before after key chores =>
      rcases mark_cases shop.queue key with ⟨signal, closed, noNews⟩
      refine sound.kept (by simpa [signal] using sound.seats) ?_ closed ?_ ?_
      · intro ready
        cases owes : (shop.queue.mark key).1 with
        | true => simp [IsAlert, Workshop.call]
        | false =>
            simp only [noNews owes] at ready
            simpa [IsAlert, chores, signal, Workshop.call] using sound.alert ready
      · intro chore
        rw [chores] at chore
        simp only [List.mem_append, List.mem_cons, reduceCtorEq, false_or] at chore ⊢
        tauto
      · intro worker waits rests
        exact ⟨signal ▸ waits, rests⟩
  | @wakeOne before after chores =>
      have stirs := Signal.stirs_wakeOne shop.queue.signal
      refine sound.kept (sound.seats.stirred stirs sound.seats.permit.wakeOne) ?_ rfl ?_ ?_
      · exact fun _ => .inl (Signal.isCalling_wakeOne _)
      · simp [chores]
      · exact fun worker waits rests => ⟨stirs.waiting waits, rests⟩
  | @wakeAll before after chores =>
      have stirs := Signal.stirs_wakeAll shop.queue.signal
      refine ⟨sound.seats.stirred stirs fun _ => rfl, ?_, fun _ => .inr fun _ => (nomatch ·)⟩
      intro ready
      rcases sound.alert ready with calls | chore | seeks
      · exact .inl calls.wakeAll
      · exact .inr (.inl (by simpa [chores] using chore))
      · exact .inr (.inr seeks)

/-- A worker that is done with its key is about to look itself, so that nobody need be woken for it.
-/
theorem Sound.meets (sound : shop.Sound) (meets : shop.Meets later) : later.Sound := by
  cases meets with
  | add key =>
      refine sound.kept sound.seats ?_ rfl (by simp) fun _ waits rests => ⟨waits, rests⟩
      intro ready
      simpa [IsAlert] using sound.alert ready
  | note delayed backoff => exact ⟨sound.seats, sound.alert, sound.told⟩
  | @start worker isAway =>
      have unknown := sound.seats.not_known isAway rfl
      refine sound.moved ?_ ?_ rfl (by simp) (List.subset_append_left _ _)
      · exact sound.seats.moved fun known => absurd known unknown
      · exact fun _ => isAlert_of_seeking rfl
  | @giveUp worker rests =>
      have loses := Signal.loses_disarm shop.queue.signal worker
      refine sound.moved (sound.seats.left loses (sound.seats.permit.disarm worker)) ?_ rfl
        (by simp) ?_
      · intro ready
        exact (sound.alert ready).moved (by simp [rests, Place.isSeeking]) fun calls =>
          calls.disarm worker
      · exact fun _ waits => List.mem_append_left _ (List.mem_filter.mp (loses.waiting waits)).1
  | @finish worker key holds =>
      rcases release_cases shop.queue key with ⟨signal, closed, _⟩
      have unknown := sound.seats.not_known holds rfl
      have seats : Seats shop.queue.signal (Function.update shop.places worker .coming) :=
        sound.seats.moved fun known => absurd known unknown
      have moved : (shop.move (shop.queue.release key).2 worker .coming).Sound := by
        refine sound.moved (by simpa [signal] using seats) ?_ closed (by simp) (by simp [signal])
        exact fun _ => isAlert_of_seeking rfl
      refine moved.kept moved.seats ?_ rfl ?_ fun _ waits rests => ⟨waits, rests⟩
      · intro _
        right
        right
        exact ⟨worker, by simp [move, Place.isSeeking]⟩
      · exact fun chore => List.mem_append_right _ chore
  | close =>
      refine ⟨sound.seats, ?_, fun _ => .inl List.mem_cons_self⟩
      intro ready
      simpa [IsAlert] using sound.alert ready
  | @reorder waiting perm =>
      have stirs : shop.queue.signal.Stirs { shop.queue.signal with waiting } :=
        ⟨perm.append_right _, perm.subset⟩
      have permit : ({ shop.queue.signal with waiting } : Signal).KeepsPermit := by
        intro permit
        have nobody := sound.seats.permit permit
        rw [nobody] at perm
        exact perm.eq_nil
      exact sound.kept (sound.seats.stirred stirs permit) sound.alert rfl id
        fun worker waits rests => ⟨perm.subset waits, rests⟩

theorem Reaches.sound (reaches : (initial policy).Reaches shop) : shop.Sound := by
  induction reaches with
  | refl => exact sound_initial
  | tail _ step ih =>
      rcases step with acts | meets
      · exact ih.acts acts
      · exact ih.meets meets

/-- Whether a worker that is at a place has no step of its own to take. -/
def IsIdle (signal : Signal) (worker : Nat) : Place → Prop
  | .away | .holding _ => True
  | .resting => worker ∈ signal.waiting
  | .coming | .looking | .found _ _ => False

theorem IsQuiet.isIdle (quiet : shop.IsQuiet) (worker : Nat) :
    IsIdle shop.queue.signal worker (shop.places worker) := by
  cases place : shop.places worker with
  | away | holding => trivial
  | coming => exact quiet _ (.begin place)
  | looking =>
      cases picked : shop.queue.pick? with
      | none => exact quiet _ (.rest place picked)
      | some => exact quiet _ (.find place picked)
  | found handout owes =>
      cases owes with
      | true => exact quiet _ (.call place)
      | false => exact quiet _ (.leave place)
  | resting => exact Classical.byContradiction fun awake => quiet _ (.resume place awake)

theorem IsQuiet.chores (quiet : shop.IsQuiet) : shop.chores = [] := by
  rcases chores : shop.chores with _ | ⟨chore, rest⟩
  · rfl
  · cases chore with
    | add => exact absurd (.add [] rest chores) (quiet _)
    | wakeOne => exact absurd (.wakeOne [] rest chores) (quiet _)
    | wakeAll => exact absurd (.wakeAll [] rest chores) (quiet _)

theorem isQuiet_of_isIdle (nothing : shop.chores = [])
    (idle : ∀ worker, IsIdle shop.queue.signal worker (shop.places worker)) : shop.IsQuiet := by
  intro later acts
  cases acts with
  | begin place | find place _ | rest place _ | call place | leave place =>
      exact (place ▸ idle _ : IsIdle _ _ _)
  | resume rests awake => exact awake (rests ▸ idle _ : IsIdle _ _ .resting)
  | add _ _ chores | wakeOne _ _ chores | wakeAll _ _ chores => simp [nothing] at chores

theorem Acts.reaches (acts : shop.Acts later) : shop.Reaches later :=
  .single (.inl acts)

theorem Meets.reaches (meets : shop.Meets later) : shop.Reaches later :=
  .single (.inr meets)

@[simp]
theorem move_queue (shop : Workshop) (queue : WorkQueue) (worker : Nat) (place : Place) :
    (shop.move queue worker place).queue = queue := rfl

@[simp]
theorem places_move (shop : Workshop) (queue : WorkQueue) (worker : Nat) (place : Place) :
    (shop.move queue worker place).places worker = place := by
  simp [move]

@[simp]
theorem move_move (shop : Workshop) (queue new : WorkQueue) (worker : Nat) (place next : Place) :
    (shop.move queue worker place).move new worker next = shop.move new worker next := by
  simp [move]

theorem reaches_wakeIf (queue : WorkQueue) (places : Nat → Place) (chores : List Chore)
    (owes : Bool) :
    Reaches ⟨queue, places, Workshop.call owes ++ chores⟩ ⟨queue.wakeIf owes, places, chores⟩ := by
  cases owes with
  | true => exact .single (.inl (.wakeOne [] chores rfl))
  | false => exact .refl

theorem reaches_add (shop : Workshop) (key : String) :
    shop.Reaches { shop with queue := shop.queue.add key } := by
  have noted : shop.Reaches { shop with chores := .add key :: shop.chores } :=
    (Meets.add key).reaches
  have marked := noted.tail (.inl (.add [] shop.chores rfl))
  rw [add_eq]
  exact marked.trans (reaches_wakeIf _ _ _ _)

def placeAfter : Option Handout → Place
  | some handout => handout.place
  | none => .resting

theorem reaches_attempt (comes : shop.places worker = .coming) :
    shop.Reaches (shop.move (shop.queue.attempt worker).2.2 worker
      (placeAfter (shop.queue.attempt worker).2.1)) := by
  have begun := (Acts.begin comes).reaches
  simp only [attempt, handOut?_eq]
  cases picked : (shop.queue.arm worker).2.pick? with
  | none => simpa [placeAfter] using begun.tail (.inl (.rest (places_move _ _ _ _) picked))
  | some result =>
      rcases result with ⟨⟨handout, owes⟩, queue⟩
      have found := begun.tail (.inl (.find (places_move _ _ _ _) picked))
      have called : shop.Reaches (shop.move (queue.wakeIf owes) worker (.found handout false)) := by
        cases owes with
        | true => simpa [wakeIf] using found.tail (.inl (.call (places_move _ _ _ _)))
        | false => simpa [wakeIf] using found
      simpa [placeAfter] using called.tail (.inl (.leave (places_move _ _ _ _)))

theorem known_attempt {queue new : WorkQueue}
    (attempted : queue.attempt worker = (true, none, new)) :
    new.signal.known = queue.signal.known := by
  simp only [attempt, WorkQueue.arm, Signal.arm] at attempted
  split at attempted
  · simp at attempted
  next nothing =>
      cases permit : queue.signal.permit with
      | false => simp [permit] at attempted
      | true =>
          simp only [permit, if_true, Prod.mk.injEq, true_and] at attempted
          rw [← attempted]
          rfl

/-- A worker that has used the permit does not wait, and looks once more. -/
theorem Sound.reaches_take (sound : shop.Sound) (comes : shop.places worker = .coming) :
    shop.Reaches (shop.move (shop.queue.take worker).2 worker
      (placeAfter (shop.queue.take worker).1)) := by
  have attempted := reaches_attempt comes
  unfold take
  rcases first : shop.queue.attempt worker with ⟨taken, result, queue⟩
  simp only [first] at attempted
  cases taken with
  | false => exact attempted
  | true =>
      cases result with
      | some handout => exact attempted
      | none =>
          have unknown := sound.seats.not_known comes rfl
          rw [← known_attempt first, Signal.mem_known, not_or] at unknown
          have resumed := attempted.tail (.inl (.resume (places_move _ _ _ _) unknown.1))
          have again := resumed.trans (reaches_attempt (places_move _ _ _ _))
          simpa [Signal.resume_of_not_awake unknown.2] using again

theorem Sound.reaches_get (sound : shop.Sound) (worker : Nat)
    (isAway : shop.places worker = .away) :
    shop.Reaches (shop.move (shop.queue.take worker).2 worker
      (placeAfter (shop.queue.take worker).1)) := by
  have starts : shop.Meets _ := .start isAway
  have taken := (sound.meets starts).reaches_take (places_move _ _ _ _)
  simpa using starts.reaches.trans taken

theorem Sound.reaches_retake (sound : shop.Sound) (worker : Nat)
    (rests : shop.places worker = .resting) (awake : worker ∉ shop.queue.signal.waiting) :
    shop.Reaches (shop.move (shop.queue.retake worker).2 worker
      (placeAfter (shop.queue.retake worker).1)) := by
  have resumes : shop.Acts _ := .resume rests awake
  have taken := (sound.acts resumes).reaches_take (places_move _ _ _ _)
  simpa [retake] using resumes.reaches.trans taken

/-- A permit is kept only while nobody waits, and whoever was woken is within its search and can go
on. -/
theorem Sound.ready_eq_nil (sound : shop.Sound) (quiet : shop.IsQuiet)
    (rests : shop.places worker = .resting) : shop.queue.ready = [] := by
  have waits : worker ∈ shop.queue.signal.waiting := (rests ▸ quiet.isIdle worker :)
  refine Classical.byContradiction fun ready => ?_
  rcases sound.alert ready with (permit | ⟨task, woken⟩) | chore | ⟨other, seeks⟩
  · simp [sound.seats.permit permit] at waits
  · have isKnown : task ∈ shop.queue.signal.known :=
      List.mem_append_right _ (List.mem_map.mpr ⟨_, woken, rfl⟩)
    have inside := sound.seats.inside task isKnown
    have idle := quiet.isIdle task
    cases place : shop.places task with
    | away | holding => simp [place, Place.isInside] at inside
    | coming | looking | found => simp [place, IsIdle] at idle
    | resting => exact sound.seats.not_waiting woken (place ▸ idle :)
  · simp [quiet.chores] at chore
  · have idle := quiet.isIdle other
    cases place : shop.places other with
    | away | holding | resting => simp [place, Place.isSeeking] at seeks
    | coming | looking | found => simp [place, IsIdle] at idle

theorem Sound.isOpen (sound : shop.Sound) (quiet : shop.IsQuiet)
    (rests : shop.places worker = .resting) : shop.queue.closed = false := by
  have waits : worker ∈ shop.queue.signal.waiting := (rests ▸ quiet.isIdle worker :)
  refine Bool.eq_false_iff.mpr fun isClosed => ?_
  rcases sound.told isClosed with chore | nobody
  · simp [quiet.chores] at chore
  · exact nobody worker waits rests

/-- However the steps of those who add keys, of workers and of whoever closes the queue come after
one another: once nobody can go on, a worker waits only for want of a key, at a queue that is
open. -/
theorem resting_of_isQuiet (reaches : (initial policy).Reaches shop) (quiet : shop.IsQuiet)
    (worker : Nat) (rests : shop.places worker = .resting) :
    shop.queue.ready = [] ∧ shop.queue.closed = false :=
  ⟨reaches.sound.ready_eq_nil quiet rests, reaches.sound.isOpen quiet rests⟩

/-- A worker rests, is woken for a key that another one takes first, and rests again. -/
theorem resting_of_isQuiet_outrun :
    ∃ shop, (initial ⟨5, 1000⟩).Reaches shop ∧ shop.IsQuiet ∧ shop.places 1 = .holding "a" ∧
      shop.places 2 = .resting ∧ shop.queue.ready = [] ∧ shop.queue.closed = false := by
  have rested : (initial ⟨5, 1000⟩).Reaches
      ⟨{ backoff := ⟨⟨5, 1000⟩, []⟩, signal := { waiting := [2] } },
        Function.update (fun _ => .away) 2 .resting, []⟩ :=
    sound_initial.reaches_get 2 rfl
  have added := rested.trans (reaches_add _ "a")
  have taken := added.trans ((Reaches.sound added).reaches_get 1 rfl)
  have again : (initial ⟨5, 1000⟩).Reaches
      ⟨{ backoff := ⟨⟨5, 1000⟩, []⟩, signal := { waiting := [2] }, processing := ["a"] },
        Function.update (Function.update (Function.update (fun _ => .away) 2 .resting)
          1 (.holding "a")) 2 .resting, []⟩ :=
    taken.trans ((Reaches.sound taken).reaches_retake 2 rfl (by decide))
  refine ⟨_, again, ?quiet, rfl, rfl, resting_of_isQuiet again ?quiet 2 rfl⟩
  case quiet =>
      refine isQuiet_of_isIdle rfl fun worker => ?_
      by_cases isSecond : worker = 2
      · simp [isSecond, IsIdle]
      · by_cases isFirst : worker = 1 <;> simp [isSecond, isFirst, IsIdle]

end Workshop

end WorkQueue

end VolumeAttacher
