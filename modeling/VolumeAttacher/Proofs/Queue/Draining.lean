import VolumeAttacher.Proofs.Queue.Delays
import VolumeAttacher.Proofs.Queue.Waking

/-!
# A closed queue is drained

Direct adds, timers, retries and workers that are done with a key that was added again all make keys
ready, and all of them look at the one flag that closing sets. So the ready keys of a closed queue
only become fewer: whoever asks takes the first of them, and nobody else changes them. How many
workers have asked since then tells what each of them was told.

Nobody waits at a closed queue either, so that everyone who asks is told something. The course of
a queue is any list of operations, with no condition on who is done with which key, since none is
needed.
-/

namespace VolumeAttacher.WorkQueue

variable {queue new : WorkQueue}

/-- Whether a worker asks for a key in an operation. -/
def Operation.asks : Operation → Bool
  | take _ | retake _ => true
  | _ => false

/-- What the worker that asks is told, if it need not wait. -/
def Operation.answer? (queue : WorkQueue) : Operation → Option Handout
  | take worker => (queue.take worker).1
  | retake worker => (queue.retake worker).1
  | _ => none

/-- Runs operations one after another, and tells what those who asked were told. -/
def runAll (queue : WorkQueue) : List Operation → List Handout × WorkQueue
  | [] => ([], queue)
  | operation :: later =>
      let rest := runAll (operation.run queue).2 later
      ((operation.answer? queue).toList ++ rest.1, rest.2)

/-- What there is to be told depends on the ready keys and on whether the queue is closed, and on
nothing else. -/
theorem map_handOut?_congr (ready : new.ready = queue.ready) (closed : new.closed = queue.closed) :
    new.handOut?.map Prod.fst = queue.handOut?.map Prod.fst := by
  unfold handOut?
  rw [ready, closed]
  cases queue.ready with
  | nil => cases queue.closed <;> rfl
  | cons key rest => rfl

theorem answer_attempt (queue : WorkQueue) (worker : Nat) :
    (queue.attempt worker).2.1 = queue.handOut?.map Prod.fst := by
  have armed : (queue.arm worker).2.handOut?.map Prod.fst = queue.handOut?.map Prod.fst :=
    map_handOut?_congr rfl rfl
  rw [← armed]
  unfold attempt
  dsimp only
  cases (queue.arm worker).2.handOut? <;> rfl

theorem answer_take (queue : WorkQueue) (worker : Nat) :
    (queue.take worker).1 = queue.handOut?.map Prod.fst := by
  have looked := answer_attempt queue worker
  have takes := takes_attempt queue worker
  unfold take
  generalize queue.attempt worker = attempted at looked takes ⊢
  rcases attempted with ⟨permit, handout, left⟩
  cases permit with
  | false => exact looked
  | true =>
      cases handout with
      | some handout => exact looked
      | none =>
          cases takes with
          | nothing _ _ same =>
              exact (answer_attempt left worker).trans (map_handOut?_congr same.ready same.closed)

theorem answer_retake (queue : WorkQueue) (worker : Nat) :
    (queue.retake worker).1 = queue.handOut?.map Prod.fst :=
  (answer_take _ worker).trans (map_handOut?_congr rfl rfl)

theorem Operation.answer?_eq (operation : Operation) (queue : WorkQueue) :
    operation.answer? queue = if operation.asks then queue.handOut?.map Prod.fst else none := by
  cases operation with
  | take worker => exact answer_take queue worker
  | retake worker => exact answer_retake queue worker
  | add | addAfter | addLater | fire | finish | forget | close | stir => rfl

theorem not_ended_of_isOpen (isOpen : queue.closed = false) :
    queue.handOut?.map Prod.fst ≠ some .ended := by
  unfold handOut?
  rw [isOpen]
  cases queue.ready <;> simp

theorem map_handOut?_of_closed (isClosed : queue.closed = true) :
    queue.handOut?.map Prod.fst = some (queue.ready.head?.elim .ended .key) := by
  unfold handOut?
  rw [isClosed]
  cases queue.ready <;> rfl

theorem Takes.ready_eq {handout : Option Handout} (takes : Takes queue handout new) :
    new.ready = queue.ready.drop 1 := by
  cases takes with
  | key first => rw [first, List.drop_one, List.tail_cons]
  | nothing none _ same => rw [same.ready, none, List.drop_nil]

/-- Whoever asks a closed queue takes its first key, and nothing else changes its keys. -/
theorem Operation.ready_of_closed {operation : Operation} {event : Option Event}
    (runs : operation.run queue = (event, new)) (isClosed : queue.closed = true) :
    new.ready = queue.ready.drop (if operation.asks then 1 else 0) := by
  cases operation with (rw [run, Prod.mk.injEq] at runs; rcases runs with ⟨-, rfl⟩)
  | take worker => exact (takes_take queue worker).ready_eq
  | retake worker => exact (takes_retake queue worker).ready_eq
  | add key => exact (stirs_add queue key).ready isClosed
  | addAfter now key delay => exact (stirs_addAfter queue now key delay).ready isClosed
  | addLater now key => exact (stirs_addLater queue now key).ready isClosed
  | fire key due => exact (stirs_fire queue key due).ready isClosed
  | finish worker key => exact (stirs_finish queue key).ready isClosed
  | forget | close | stir => rfl

/-- As long as a queue is not closed, nobody is told that it has ended. -/
theorem runAll_isOpen {operations : List Operation} (isOpen : queue.closed = false)
    (neverClosed : .close ∉ operations) :
    .ended ∉ (queue.runAll operations).1 ∧ (queue.runAll operations).2.closed = false := by
  induction operations generalizing queue with
  | nil => exact ⟨List.not_mem_nil, isOpen⟩
  | cons operation later ih =>
      rw [List.mem_cons, not_or] at neverClosed
      cases runs : operation.run queue with
      | mk event new =>
          have stillOpen := operation.isOpen runs isOpen (Ne.symm neverClosed.1)
          rcases ih stillOpen neverClosed.2 with ⟨notEnded, laterOpen⟩
          rw [runAll, runs]
          refine ⟨?_, laterOpen⟩
          intro ended
          rcases List.mem_append.mp ended with told | told
          · rw [Option.mem_toList, operation.answer?_eq] at told
            split at told
            · exact not_ended_of_isOpen isOpen told
            · contradiction
          · exact notEnded told

/-- After a queue has been closed its ready keys are handed out one by one, and then everyone who
asks is told that it has ended. -/
theorem runAll_of_closed (isClosed : queue.closed = true) (operations : List Operation) :
    (queue.runAll operations).1 =
        (queue.ready.take (operations.countP Operation.asks)).map .key ++
          List.replicate (operations.countP Operation.asks - queue.ready.length) .ended ∧
      (queue.runAll operations).2.ready =
        queue.ready.drop (operations.countP Operation.asks) ∧
      (queue.runAll operations).2.closed = true := by
  induction operations generalizing queue with
  | nil => simp [runAll, isClosed]
  | cons operation later ih =>
      cases runs : operation.run queue with
      | mk event new =>
          have ready := operation.ready_of_closed runs isClosed
          rcases ih (operation.isClosed runs isClosed) with ⟨told, left, stillClosed⟩
          rw [runAll, runs]
          refine ⟨?_, ?_, stillClosed⟩
          · dsimp only
            rw [told, ready, operation.answer?_eq, map_handOut?_of_closed isClosed]
            cases asks : operation.asks with
            | false => simp [asks]
            | true => cases queue.ready <;> simp [asks, List.replicate_succ]
          · dsimp only
            rw [left, ready, List.drop_drop, List.countP_cons, Nat.add_comm]

/-- Closing cuts off whatever makes keys ready. Until a queue is closed nobody who asks is told
that it has ended. From then on, whatever is added, fires or finishes: those who ask never wait and
those who waited are woken; they are handed the keys that were ready when the queue was closed, in
their order, and once these have run out all are told that the queue has ended; and the ready keys
are those of them that have not been handed out. -/
theorem drains_of_close (policy : RetryPolicy) {before : List Operation}
    (neverClosed : .close ∉ before) (after : List Operation) :
    let earlier := (empty policy).runAll before
    let later := earlier.2.close.runAll after
    let asked := after.countP Operation.asks
    .ended ∉ earlier.1 ∧
      later.1 = (earlier.2.ready.take asked).map .key ++
        List.replicate (asked - earlier.2.ready.length) .ended ∧
      later.2.ready = earlier.2.ready.drop asked ∧
      (∀ operation : Operation, operation.asks →
        (operation.answer? later.2 = some .ended ↔ later.2.ready = [])) ∧
      ∀ worker ∈ earlier.2.signal.waiting, worker ∈ earlier.2.close.signal.awake := by
  intro earlier later asked
  have emptyOpen : (empty policy).closed = false := rfl
  have isClosed : earlier.2.close.closed = true := rfl
  have neverEnded := (runAll_isOpen emptyOpen neverClosed).1
  rcases runAll_of_closed isClosed after with ⟨told, left, stillClosed⟩
  refine ⟨neverEnded, told, left, ?_, ?_⟩
  · intro operation asks
    rw [operation.answer?_eq, if_pos asks, map_handOut?_of_closed stillClosed]
    cases later.2.ready <;> simp
  · intro worker waits
    have woken : (worker, WakeUp.together) ∈ earlier.2.close.signal.woken :=
      List.mem_append_right _ (List.mem_map.mpr ⟨worker, waits, rfl⟩)
    exact List.mem_map.mpr ⟨_, woken, rfl⟩

/-- Two keys are ready when the queue is closed. A key that is dirty and held, one whose timer has
been set, a retry and a new key all come too late. -/
theorem drains_of_close_with_late_adds :
    let before : List Operation := [.add "a", .take 1, .add "a", .add "b", .add "c",
      .addAfter 0 "d" 7]
    let after : List Operation := [.finish 1 "a", .take 2, .fire "d" 7, .addLater 8 "e",
      .addAfter 8 "f" 0, .take 1, .add "g", .retake 3, .finish 2 "b", .take 2]
    (((empty ⟨5, 1000⟩).runAll before).2.close.runAll after).1 =
        [.key "b", .key "c", .ended, .ended] ∧
      (((empty ⟨5, 1000⟩).runAll before).2.close.runAll after).2.ready = [] := by
  intro before after
  have ready : ((empty ⟨5, 1000⟩).runAll before).2.ready = ["b", "c"] := by decide
  have asked : after.countP Operation.asks = 4 := by decide
  have neverClosed : .close ∉ before := by simp [before]
  rcases drains_of_close ⟨5, 1000⟩ neverClosed after with ⟨_, told, left, _⟩
  rw [ready, asked] at told left
  exact ⟨told, left⟩

end VolumeAttacher.WorkQueue
