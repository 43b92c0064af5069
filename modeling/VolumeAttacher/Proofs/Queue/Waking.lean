import Mathlib.Data.List.Nodup
import VolumeAttacher.Proofs.Queue.Operations

/-!
# Who waits at a queue

The tasks that a signal knows either wait or have been woken and have not resumed. Waking moves some
of them from the first to the second and makes nobody known or forgotten, and this is all that
producers, and workers that are done with a key, do to the signal of a queue. A worker that asks
for a key is known as waiting afterwards if it has got nothing, and is not known if it has.

Once a queue is closed nobody waits at it any more, it takes no keys, and whoever asks it is given a
ready key or is told that it has ended.
-/

namespace VolumeAttacher

namespace Signal

variable {signal old new other : Signal} {task : Nat}

/-- The tasks that were woken and have not resumed. -/
def awake (signal : Signal) : List Nat :=
  signal.woken.map Prod.fst

/-- The tasks that wait or that were woken. -/
def known (signal : Signal) : List Nat :=
  signal.waiting ++ signal.awake

theorem mem_known : task ∈ signal.known ↔ task ∈ signal.waiting ∨ task ∈ signal.awake :=
  List.mem_append

/-- Whether some of those that wait have been woken, and no more than that. -/
structure Stirs (old new : Signal) : Prop where
  known : new.known.Perm old.known
  waiting : new.waiting ⊆ old.waiting

theorem Stirs.refl (signal : Signal) : signal.Stirs signal :=
  ⟨List.Perm.refl _, List.Subset.refl _⟩

theorem Stirs.trans (first : old.Stirs other) (second : other.Stirs new) : old.Stirs new :=
  ⟨second.known.trans first.known, fun _ within => first.waiting (second.waiting within)⟩

theorem stirs_wakeOne (signal : Signal) : signal.Stirs signal.wakeOne := by
  unfold wakeOne
  split
  next nobody => exact ⟨List.Perm.refl _, List.Subset.refl _⟩
  next task rest first =>
      refine ⟨?_, ?_⟩
      · simp only [Signal.known, awake, first, List.map_append, List.map_cons, List.map_nil,
          List.cons_append, ← List.append_assoc]
        exact List.perm_append_singleton task _
      · rw [first]
        exact List.subset_cons_self task rest

theorem stirs_wakeAll (signal : Signal) : signal.Stirs signal.wakeAll := by
  refine ⟨?_, List.nil_subset _⟩
  simp only [Signal.known, awake, wakeAll, List.map_append, List.map_map, List.nil_append]
  have same : (Prod.fst ∘ fun task : Nat => (task, WakeUp.together)) = id := rfl
  rw [same, List.map_id]
  exact List.perm_append_comm

/-- Whether a task is not known any more, and otherwise some of those that wait have been woken at
most. -/
structure Loses (task : Nat) (old new : Signal) : Prop where
  known : new.known.Perm (old.known.filter (· ≠ task))
  waiting : new.waiting ⊆ old.waiting.filter (· ≠ task)

/-- Whoever is not known any more is not known whatever was stirred before. -/
theorem Stirs.loses (stirs : old.Stirs other) (loses : other.Loses task new) :
    old.Loses task new where
  known := loses.known.trans (stirs.known.filter _)
  waiting := fun _ within => List.filter_subset _ stirs.waiting (loses.waiting within)

theorem known_resume (signal : Signal) (task : Nat) (idle : task ∉ signal.waiting) :
    (signal.resume task).known = signal.known.filter (· ≠ task) := by
  have others : signal.waiting.filter (· ≠ task) = signal.waiting :=
    List.filter_eq_self.mpr fun other within => decide_eq_true fun same => idle (same ▸ within)
  rw [Signal.known, Signal.known, List.filter_append, others, awake, awake, resume,
    List.filter_map]
  rfl

theorem loses_disarm (signal : Signal) (task : Nat) : signal.Loses task (signal.disarm task) := by
  have left : ({ signal with
      waiting := signal.waiting.filter (· ≠ task)
      woken := signal.woken.filter fun entry => entry.1 ≠ task } : Signal).known =
        signal.known.filter (· ≠ task) := by
    rw [Signal.known, Signal.known, List.filter_append, awake, awake, List.filter_map]
    rfl
  unfold disarm
  dsimp only
  split
  · have stirs := stirs_wakeOne { signal with
      waiting := signal.waiting.filter (· ≠ task)
      woken := signal.woken.filter fun entry => entry.1 ≠ task }
    exact ⟨left ▸ stirs.known, stirs.waiting⟩
  · exact ⟨left ▸ List.Perm.refl _, List.Subset.refl _⟩

end Signal

namespace WorkQueue

variable {queue old new other : WorkQueue} {worker : Nat}

/-- What producers, and workers that are done with a key, may do to the signal of a queue and to
what it hands out once it is closed. -/
structure Stirs (old new : WorkQueue) : Prop where
  signal : old.signal.Stirs new.signal
  closed : new.closed = old.closed
  ready : old.closed = true → new.ready = old.ready

theorem Stirs.refl (queue : WorkQueue) : queue.Stirs queue :=
  ⟨.refl _, rfl, fun _ => rfl⟩

theorem Stirs.trans (first : old.Stirs other) (second : other.Stirs new) : old.Stirs new where
  signal := first.signal.trans second.signal
  closed := second.closed.trans first.closed
  ready closed := (second.ready (first.closed.trans closed)).trans (first.ready closed)

theorem stirs_add (queue : WorkQueue) (key : String) : queue.Stirs (queue.add key) := by
  unfold add
  split
  · exact .refl queue
  next fresh =>
      have isOpen : queue.closed = false := by
        cases closed : queue.closed with
        | false => rfl
        | true => simp [closed] at fresh
      dsimp only
      split
      · exact ⟨.refl _, rfl, fun _ => rfl⟩
      · exact ⟨Signal.stirs_wakeOne _, rfl, fun closed => by simp [isOpen] at closed⟩

theorem stirs_addAfter (queue : WorkQueue) (now : Nat) (key : String) (delay : Nat) :
    queue.Stirs (queue.addAfter now key delay).2 := by
  unfold addAfter
  split
  · exact stirs_add queue key
  · split
    · exact .refl queue
    · dsimp only
      split
      · split <;> exact ⟨.refl _, rfl, fun _ => rfl⟩
      · exact ⟨.refl _, rfl, fun _ => rfl⟩

theorem stirs_addLater (queue : WorkQueue) (now : Nat) (key : String) :
    queue.Stirs (queue.addLater now key).2 := by
  have counted : queue.Stirs { queue with backoff := (queue.backoff.fail key).2 } :=
    ⟨.refl _, rfl, fun _ => rfl⟩
  exact counted.trans (stirs_addAfter _ now key _)

theorem stirs_fire (queue : WorkQueue) (key : String) (due : Nat) :
    queue.Stirs (queue.fire key due) := by
  unfold fire
  split
  · have expired : queue.Stirs { queue with delayed := Table.erase queue.delayed key } :=
      ⟨.refl _, rfl, fun _ => rfl⟩
    exact expired.trans (stirs_add _ key)
  · exact .refl queue

theorem stirs_forget (queue : WorkQueue) (key : String) : queue.Stirs (queue.forget key) :=
  ⟨.refl _, rfl, fun _ => rfl⟩

theorem stirs_finish (queue : WorkQueue) (key : String) : queue.Stirs (queue.finish key) := by
  unfold finish
  dsimp only
  split
  next again =>
      refine ⟨Signal.stirs_wakeOne _, rfl, ?_⟩
      intro closed
      simp [closed] at again
  next => exact ⟨.refl _, rfl, fun _ => rfl⟩

/-- What comes of asking for a key. -/
inductive Asked (worker : Nat) (old : WorkQueue) : Option Handout → WorkQueue → Prop where
  | nothing {new : WorkQueue} (isOpen : old.closed = false) (closed : new.closed = false)
      (known : new.signal.known.Perm (worker :: old.signal.known.filter (· ≠ worker)))
      (waits : worker ∈ new.signal.waiting)
      (waiting : new.signal.waiting ⊆ old.signal.waiting ++ [worker]) : Asked worker old none new
  | key {key : String} {new : WorkQueue} (closed : new.closed = old.closed)
      (signal : old.signal.Loses worker new.signal) (first : old.ready = key :: new.ready) :
      Asked worker old (some (.key key)) new
  | ended {new : WorkQueue} (isClosed : old.closed = true) (closed : new.closed = true)
      (signal : old.signal.Loses worker new.signal) (ready : new.ready = old.ready) :
      Asked worker old (some .ended) new

theorem handOut?_eq_some {handout : Handout} (handedOut : queue.handOut? = some (handout, new)) :
    queue.signal.Stirs new.signal ∧ new.closed = queue.closed ∧
      ((∃ key, handout = .key key ∧ queue.ready = key :: new.ready) ∨
        handout = .ended ∧ queue.closed = true ∧ new.ready = queue.ready) := by
  unfold handOut? at handedOut
  split at handedOut
  next key rest first =>
      cases handedOut
      split
      · exact ⟨.refl _, rfl, .inl ⟨key, rfl, first⟩⟩
      · exact ⟨Signal.stirs_wakeOne _, rfl, .inl ⟨key, rfl, first⟩⟩
  next =>
      split at handedOut
      next closed =>
          cases handedOut
          exact ⟨.refl _, rfl, .inr ⟨rfl, closed, rfl⟩⟩
      next => contradiction

theorem isOpen_of_handOut? (nothing : queue.handOut? = none) : queue.closed = false := by
  unfold handOut? at nothing
  split at nothing
  · contradiction
  · split at nothing
    · contradiction
    next isOpen => simpa using isOpen

/-- A worker that finds something is not known afterwards, whether or not it has begun to wait
before. -/
theorem asked_of_handOut? {handout : Handout} (handedOut : other.handOut? = some (handout, new))
    (known : other.signal.known.filter (· ≠ worker) = old.signal.known.filter (· ≠ worker))
    (waiting : other.signal.waiting.filter (· ≠ worker) =
      old.signal.waiting.filter (· ≠ worker))
    (ready : other.ready = old.ready) (closed : other.closed = old.closed) :
    Asked worker old (some handout) (new.disarm worker) := by
  rcases handOut?_eq_some handedOut with ⟨stirs, sameClosed, found⟩
  have loses : old.signal.Loses worker (new.disarm worker).signal := by
    have left := stirs.loses (Signal.loses_disarm new.signal worker)
    exact ⟨known ▸ left.known, waiting ▸ left.waiting⟩
  rcases found with ⟨key, rfl, first⟩ | ⟨rfl, isClosed, same⟩
  · exact .key (sameClosed.trans closed) loses (ready.symm.trans first)
  · exact .ended (closed.symm.trans isClosed) (sameClosed.trans isClosed) loses (same.trans ready)

/-- What a worker knows of a queue that differs in its permit, or in whether the worker itself was
woken. -/
theorem Asked.of_same {handout : Option Handout} (asked : Asked worker other handout new)
    (known : other.signal.known.filter (· ≠ worker) = old.signal.known.filter (· ≠ worker))
    (waiting : other.signal.waiting = old.signal.waiting)
    (ready : other.ready = old.ready) (closed : other.closed = old.closed) :
    Asked worker old handout new := by
  cases asked with
  | nothing isOpen stillOpen others waits within =>
      exact .nothing (closed ▸ isOpen) stillOpen (known ▸ others) waits (waiting ▸ within)
  | key same signal first =>
      exact .key (same.trans closed) ⟨known ▸ signal.known, waiting ▸ signal.waiting⟩
        (ready ▸ first)
  | ended isClosed stillClosed signal same =>
      exact .ended (closed ▸ isClosed) stillClosed ⟨known ▸ signal.known, waiting ▸ signal.waiting⟩
        (same.trans ready)

/-- Without a permit a worker begins to wait before it looks. -/
theorem asked_attempt (queue : WorkQueue) (noPermit : queue.signal.permit = false)
    (unknown : worker ∉ queue.signal.known) :
    (queue.attempt worker).1 = false ∧
      Asked worker queue (queue.attempt worker).2.1 (queue.attempt worker).2.2 := by
  have armed : queue.arm worker = (false, { queue with
      signal := { queue.signal with waiting := queue.signal.waiting ++ [worker] } }) := by
    unfold arm Signal.arm
    rw [if_neg (by simp [noPermit])]
  unfold attempt
  rw [armed]
  dsimp only
  split
  next handout new handedOut =>
      refine ⟨rfl, asked_of_handOut? handedOut ?_ ?_ rfl rfl⟩
      · simp [Signal.known, Signal.awake]
      · simp
  next nothing =>
      have isOpen := isOpen_of_handOut? nothing
      refine ⟨rfl, .nothing isOpen isOpen ?_ (by simp) (List.Subset.refl _)⟩
      have others : queue.signal.known.filter (· ≠ worker) = queue.signal.known :=
        List.filter_eq_self.mpr fun other within =>
          decide_eq_true fun same => unknown (same ▸ within)
      rw [others]
      simp only [Signal.known, Signal.awake, List.append_assoc, List.singleton_append]
      exact List.perm_middle

/-- After the permit has been used, the second look is one without a permit. -/
theorem asked_take (queue : WorkQueue) (unknown : worker ∉ queue.signal.known) :
    Asked worker queue (queue.take worker).1 (queue.take worker).2 := by
  cases permit : queue.signal.permit with
  | false =>
      have asked := asked_attempt queue permit unknown
      unfold take
      generalize queue.attempt worker = attempted at asked ⊢
      rcases attempted with ⟨taken, handout, new⟩
      rcases asked with ⟨rfl, asked⟩
      exact asked
  | true =>
      have armed : queue.arm worker =
          (true, { queue with signal := { queue.signal with permit := false } }) := by
        unfold arm Signal.arm
        rw [if_pos permit]
      cases found :
          ({ queue with signal := { queue.signal with permit := false } } : WorkQueue).handOut? with
      | some given =>
          rcases given with ⟨handout, new⟩
          have attempted : queue.attempt worker = (true, some handout, new.disarm worker) := by
            unfold attempt
            rw [armed]
            dsimp only
            rw [found]
          unfold take
          rw [attempted]
          exact asked_of_handOut? found rfl rfl rfl rfl
      | none =>
          have attempted : queue.attempt worker =
              (true, none, { queue with signal := { queue.signal with permit := false } }) := by
            unfold attempt
            rw [armed]
            dsimp only
            rw [found]
          unfold take
          rw [attempted]
          have asked := asked_attempt
            { queue with signal := { queue.signal with permit := false } } rfl unknown
          exact asked.2.of_same rfl rfl rfl rfl

/-- A worker that was woken, or that has not asked before, asks. -/
theorem asked_retake (queue : WorkQueue) (idle : worker ∉ queue.signal.waiting) :
    Asked worker queue (queue.retake worker).1 (queue.retake worker).2 := by
  have resumed := Signal.known_resume queue.signal worker idle
  refine (asked_take { queue with signal := queue.signal.resume worker } ?_).of_same ?_ rfl rfl rfl
  · rw [resumed]
    simp
  · rw [resumed, List.filter_filter]
    simp

section

variable {handout : Option Handout} {task : Nat} (asked : Asked worker old handout new)

include asked

theorem Asked.mem_known (isOther : task ≠ worker) :
    task ∈ new.signal.known ↔ task ∈ old.signal.known := by
  cases asked with
  | nothing _ _ known => simp [known.mem_iff, isOther]
  | key _ loses => simp [loses.known.mem_iff, isOther]
  | ended _ _ loses => simp [loses.known.mem_iff, isOther]

theorem Asked.mem_waiting (isOther : task ≠ worker) (waits : task ∈ new.signal.waiting) :
    task ∈ old.signal.waiting := by
  cases asked with
  | nothing _ _ _ _ waiting => simpa [isOther] using waiting waits
  | key _ loses => exact (List.mem_filter.mp (loses.waiting waits)).1
  | ended _ _ loses => exact (List.mem_filter.mp (loses.waiting waits)).1

theorem Asked.known_nodup (nodup : old.signal.known.Nodup) : new.signal.known.Nodup := by
  cases asked with
  | nothing _ _ known =>
      refine known.nodup_iff.mpr (List.nodup_cons.mpr ⟨by simp, nodup.filter _⟩)
  | key _ loses => exact loses.known.nodup_iff.mpr (nodup.filter _)
  | ended _ _ loses => exact loses.known.nodup_iff.mpr (nodup.filter _)

theorem Asked.not_mem_known (found : handout ≠ none) : worker ∉ new.signal.known := by
  cases asked with
  | nothing => contradiction
  | key _ loses => simp [loses.known.mem_iff]
  | ended _ _ loses => simp [loses.known.mem_iff]

theorem Asked.mem_waiting_self (nothing : handout = none) : worker ∈ new.signal.waiting := by
  cases asked with
  | nothing _ _ _ waits => exact waits
  | key => contradiction
  | ended => contradiction

theorem Asked.closed_eq : new.closed = old.closed := by
  cases asked with
  | nothing isOpen closed => rw [isOpen, closed]
  | key closed => exact closed
  | ended isClosed closed => rw [isClosed, closed]

end

end WorkQueue

end VolumeAttacher
