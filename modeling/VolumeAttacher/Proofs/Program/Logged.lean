import VolumeAttacher.Proofs.Program.Heeding
import VolumeAttacher.Proofs.Program.Ends

/-!
# Runs with a log

Some laws are about the order in which things happen in a run: one thing is done only after another
has been answered in some way. For them the surroundings keep a log: `Program.Logged` adds each
request, with its answer and the states before and after it, to a list. A run in surroundings with
a log is a run without one, and every run can be logged.
-/

namespace VolumeAttacher.Program

variable {Request : Type} {Answer : Request → Type} {σ α : Type}

/-- A request of a run with its answer, and the states of the surroundings around it. -/
structure Exchange (Request : Type) (Answer : Request → Type) (σ : Type) where
  before : σ
  request : Request
  answer : Answer request
  after : σ

/-- Surroundings that keep a log of what they are asked and answer, the latest last. -/
def Logged (answered : (request : Request) → σ → Answer request → σ → Prop) (request : Request)
    (before : σ × List (Exchange Request Answer σ)) (answer : Answer request)
    (after : σ × List (Exchange Request Answer σ)) : Prop :=
  answered request before.1 answer after.1 ∧
    after.2 = before.2 ++ [⟨before.1, request, answer, after.1⟩]

variable {answered : (request : Request) → σ → Answer request → σ → Prop}
  {program : Program Request Answer α} {before after : σ × List (Exchange Request Answer σ)}
  {result : α}

/-- A run that is logged is a run. -/
theorem Ends.unlogged (ends : program.Ends (Logged answered) before result after) :
    program.Ends answered before.1 result after.1 := by
  induction program generalizing before with
  | done value =>
      rcases ends with ⟨rfl, rfl⟩
      exact ⟨rfl, rfl⟩
  | ask request next ih =>
      rcases ends with ⟨answer, middle, ⟨answers, _⟩, ends⟩
      exact ⟨answer, middle.1, answers, ih answer ends⟩

/-- Every run can be logged. -/
theorem Ends.exists_logged {before after : σ} (ends : program.Ends answered before result after)
    (log : List (Exchange Request Answer σ)) :
    ∃ longer, program.Ends (Logged answered) (before, log) result (after, longer) := by
  induction program generalizing before log with
  | done value =>
      rcases ends with ⟨rfl, rfl⟩
      exact ⟨log, rfl, rfl⟩
  | ask request next ih =>
      rcases ends with ⟨answer, middle, answers, ends⟩
      rcases ih answer ends (log ++ [⟨before, request, answer, middle⟩]) with ⟨longer, ends⟩
      exact ⟨longer, answer, _, ⟨answers, rfl⟩, ends⟩

theorem ends_logged_ask {request : Request} {next : Answer request → Program Request Answer α}
    {before : σ} {log : List (Exchange Request Answer σ)} :
    (ask request next).Ends (Logged answered) (before, log) result after ↔
      ∃ answer middle, answered request before answer middle ∧
        (next answer).Ends (Logged answered)
          (middle, log ++ [⟨before, request, answer, middle⟩]) result after := by
  constructor
  · rintro ⟨answer, ⟨middle, logged⟩, ⟨answers, isLogged⟩, ends⟩
    change logged = log ++ [⟨before, request, answer, middle⟩] at isLogged
    subst isLogged
    exact ⟨answer, middle, answers, ends⟩
  · rintro ⟨answer, middle, answers, ends⟩
    exact ⟨answer, _, ⟨answers, rfl⟩, ends⟩

/-- What a run adds to the log does not depend on what has been logged before. -/
theorem ends_logged_iff {before after : σ} {log longer : List (Exchange Request Answer σ)} :
    program.Ends (Logged answered) (before, log) result (after, longer) ↔
      ∃ added, longer = log ++ added ∧
        program.Ends (Logged answered) (before, []) result (after, added) := by
  induction program generalizing before log longer with
  | done value =>
      constructor
      · rintro ⟨rfl, ⟨⟩⟩
        exact ⟨[], by simp, rfl, rfl⟩
      · rintro ⟨_, rfl, rfl, ⟨⟩⟩
        exact ⟨rfl, by simp⟩
  | ask request next ih =>
      simp only [ends_logged_ask]
      constructor
      · rintro ⟨answer, middle, answers, ends⟩
        rcases (ih answer).mp ends with ⟨added, rfl, endsNext⟩
        exact ⟨⟨before, request, answer, middle⟩ :: added, by simp, answer, middle, answers,
          (ih answer).mpr ⟨added, rfl, endsNext⟩⟩
      · rintro ⟨_, rfl, answer, middle, answers, ends⟩
        rcases (ih answer).mp ends with ⟨added, rfl, endsNext⟩
        exact ⟨answer, middle, answers, (ih answer).mpr ⟨added, by simp, endsNext⟩⟩

/-- The log of a program that goes on with a second one is that of both in turn. -/
theorem ends_logged_bind {β : Type} {next : α → Program Request Answer β} {ended : β}
    {before after : σ} {log : List (Exchange Request Answer σ)} :
    (program.bind next).Ends (Logged answered) (before, []) ended (after, log) ↔
      ∃ result middle first rest, log = first ++ rest ∧
        program.Ends (Logged answered) (before, []) result (middle, first) ∧
        (next result).Ends (Logged answered) (middle, []) ended (after, rest) := by
  rw [ends_bind]
  constructor
  · rintro ⟨result, ⟨middle, first⟩, ends, endsNext⟩
    rcases ends_logged_iff.mp endsNext with ⟨rest, same, endsNext⟩
    exact ⟨result, middle, first, rest, same, ends, endsNext⟩
  · rintro ⟨result, middle, first, rest, same, ends, endsNext⟩
    exact ⟨result, (middle, first), ends, ends_logged_iff.mpr ⟨rest, same, endsNext⟩⟩

/-- The log of a program lists only requests that the program may make. -/
theorem Heeds.logged {may : Request → Prop} {ends : α → Prop} {before after : σ}
    {log : List (Exchange Request Answer σ)} (heeds : program.Heeds may (fun _ _ => True) ends)
    (ended : program.Ends (Logged answered) (before, []) result (after, log)) :
    ∀ exchange ∈ log, may exchange.request := by
  induction program generalizing before log with
  | done value =>
      rcases ended with ⟨_, ⟨⟩⟩
      simp
  | ask request next ih =>
      rcases heeds with ⟨mayRequest, rest⟩
      rcases ends_logged_ask.mp ended with ⟨answer, middle, _, ended⟩
      rcases ends_logged_iff.mp ended with ⟨added, rfl, endedNext⟩
      intro exchange exchangeMem
      rcases List.mem_cons.mp exchangeMem with rfl | addedMem
      · exact mayRequest
      · exact ih answer (rest answer trivial) endedNext exchange addedMem

end VolumeAttacher.Program
