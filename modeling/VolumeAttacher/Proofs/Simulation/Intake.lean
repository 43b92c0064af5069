import VolumeAttacher.Simulation.ControllerRun

/-!
# What the intake chooses

The intake waits for the cancellation and for the changes of both streams. A closed stream is a
disabled branch once it is drained, but the cancellation is a pending one for as long as it has not
come. So there is always something to wait for, and the intake never does what it would do
otherwise: closed streams do not end a run.
-/

namespace VolumeAttacher.Simulation

namespace Choice

variable {α : Type} {branches : List (Branch α)}

theorem ready_mem_of_taken {value : α} (chosen : Choice.of branches = .taken value) :
    .ready value ∈ branches := by
  induction branches with
  | nil => contradiction
  | cons branch branches ih =>
      cases branch with
      | ready first =>
          cases chosen
          exact List.mem_cons_self
      | disabled => exact List.mem_cons_of_mem _ (ih chosen)
      | pending =>
          rw [Choice.of] at chosen
          split at chosen
          next first same =>
              cases chosen
              exact List.mem_cons_of_mem _ (ih same)
          · contradiction
          · contradiction

/-- What is to be done otherwise is chosen only if all branches are disabled. -/
theorem eq_disabled_of_otherwise (chosen : Choice.of branches = .otherwise) :
    ∀ branch ∈ branches, branch = .disabled := by
  induction branches with
  | nil => simp
  | cons branch branches ih =>
      cases branch with
      | ready first => contradiction
      | disabled =>
          intro branch branchMem
          rcases List.mem_cons.mp branchMem with same | branchMem
          · exact same
          · exact ih chosen branch branchMem
      | pending =>
          rw [Choice.of] at chosen
          split at chosen <;> contradiction

theorem ready_notMem_of_waiting {value : α} (chosen : Choice.of branches = .waiting) :
    .ready value ∉ branches := by
  induction branches with
  | nil => simp
  | cons branch branches ih =>
      cases branch with
      | ready first => contradiction
      | disabled => simpa using ih chosen
      | pending =>
          rw [Choice.of] at chosen
          split at chosen
          · contradiction
          next rest => simpa using ih rest
          next rest =>
              simp only [List.mem_cons, reduceCtorEq, false_or]
              intro ready
              exact absurd (eq_disabled_of_otherwise rest _ ready) (by simp)

end Choice

namespace ControllerRun

open Reconcile (QueueName)

variable (run : ControllerRun)

/-- The cancellation is never disabled. -/
theorem cancelBranch_ne_disabled : run.cancelBranch ≠ .disabled := by
  unfold cancelBranch
  split <;> simp

/-- There is always something to wait for, whether or not the streams are closed. -/
theorem choice_ne_otherwise : run.choice ≠ .otherwise := by
  intro chosen
  have disabled := Choice.eq_disabled_of_otherwise chosen run.cancelBranch List.mem_cons_self
  exact run.cancelBranch_ne_disabled disabled

variable {run}

/-- The first of the changes is ready in its stream, and nothing else is ready in a stream. -/
theorem streamBranch_eq_ready_iff {stream : QueueName} {taken : Intake} :
    run.streamBranch stream = .ready taken ↔
      ∃ change, run.changes.head? = some change ∧ change.stream = stream ∧
        taken = .change change := by
  unfold streamBranch
  cases run.changes.head? with
  | none =>
      simp only [Option.filter_none]
      split <;> simp
  | some change =>
      by_cases same : change.stream = stream
      · simp only [Option.filter_some, same, decide_true, if_true]
        constructor
        · rintro ⟨⟩
          exact ⟨change, rfl, same, rfl⟩
        · rintro ⟨_, ⟨⟩, _, rfl⟩
          rfl
      · simp only [Option.filter_some, same, decide_false, Bool.false_eq_true, if_false]
        split <;> simp [same]

theorem ready_mem_branches_iff {taken : Intake} :
    .ready taken ∈ run.branches ↔
      (run.cancelled = true ∧ taken = .cancelled) ∨
        ∃ change, run.changes.head? = some change ∧ taken = .change change := by
  have inStream (stream : QueueName) : .ready taken = run.streamBranch stream ↔ _ :=
    eq_comm.trans streamBranch_eq_ready_iff
  simp only [branches, List.mem_cons, List.not_mem_nil, or_false, inStream]
  constructor
  · rintro (cancels | ⟨change, first, _, isTaken⟩ | ⟨change, first, _, isTaken⟩)
    · unfold cancelBranch at cancels
      split at cancels
      next cancelled =>
          cases cancels
          exact .inl ⟨cancelled, rfl⟩
      next => contradiction
    · exact .inr ⟨change, first, isTaken⟩
    · exact .inr ⟨change, first, isTaken⟩
  · rintro (⟨cancelled, rfl⟩ | ⟨change, first, isTaken⟩)
    · simp [cancelBranch, cancelled]
    · cases stream : change.stream with
      | attachments => exact .inr (.inl ⟨change, first, stream, isTaken⟩)
      | volumes => exact .inr (.inr ⟨change, first, stream, isTaken⟩)

theorem choice_of_cancelled (cancelled : run.cancelled = true) :
    run.choice = .taken .cancelled := by
  simp [choice, branches, cancelBranch, cancelled, Choice.of]

theorem choice_of_nil (notCancelled : run.cancelled = false) (noChange : run.changes = []) :
    run.choice = .waiting := by
  cases chosen : run.choice with
  | waiting => rfl
  | otherwise => exact absurd chosen run.choice_ne_otherwise
  | taken value =>
      have ready := ready_mem_branches_iff.mp (Choice.ready_mem_of_taken chosen)
      simp [notCancelled, noChange] at ready

theorem choice_of_cons {change : Event} {changes : List Event}
    (notCancelled : run.cancelled = false) (first : run.changes = change :: changes) :
    run.choice = .taken (.change change) := by
  cases chosen : run.choice with
  | otherwise => exact absurd chosen run.choice_ne_otherwise
  | taken value =>
      have ready := ready_mem_branches_iff.mp (Choice.ready_mem_of_taken chosen)
      simp only [notCancelled, Bool.false_eq_true, false_and, first, List.head?_cons,
        Option.some.injEq, exists_eq_left', false_or] at ready
      rw [ready]
  | waiting =>
      have ready : .ready (.change change) ∈ run.branches :=
        ready_mem_branches_iff.mpr (.inr ⟨change, by rw [first]; rfl, rfl⟩)
      exact absurd ready (Choice.ready_notMem_of_waiting chosen)

/-- The intake closes the queues if the run has been cancelled, and not otherwise. -/
theorem actIntake_eq (run : ControllerRun) :
    run.actIntake =
      if run.cancelled then run.rest.close
      else
        match run.changes with
        | [] => run.rest
        | change :: _ => run.takeIn change := by
  unfold actIntake
  cases cancelled : run.cancelled with
  | true => rw [choice_of_cancelled cancelled, if_pos rfl]
  | false =>
      cases changes : run.changes with
      | nil => rw [choice_of_nil cancelled changes, if_neg Bool.false_ne_true]
      | cons change later => rw [choice_of_cons cancelled changes, if_neg Bool.false_ne_true]

end ControllerRun

end VolumeAttacher.Simulation
