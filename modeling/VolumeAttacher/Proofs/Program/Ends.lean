import VolumeAttacher.Proofs.Program.Conduct

/-!
# How programs end

A program that is run in some surroundings ends with a result, and leaves the surroundings in some
state. `Program.Ends` relates the state at the beginning, the result and the state at the end, for
surroundings that a relation describes: how a request may be answered in a state, and in which state
this leaves them. What a program does as a whole is put together from what its parts do.
-/

namespace VolumeAttacher.Program

variable {Request : Type} {Answer : Request → Type} {σ τ α β : Type}

/-- Whether a program that begins in a state may end with a result in another one. -/
def Ends (answered : (request : Request) → σ → Answer request → σ → Prop) :
    Program Request Answer α → σ → α → σ → Prop
  | done result, before, ended, after => ended = result ∧ after = before
  | ask request next, before, ended, after =>
      ∃ answer middle, answered request before answer middle ∧
        (next answer).Ends answered middle ended after

variable {answered : (request : Request) → σ → Answer request → σ → Prop} {before after : σ}

theorem ends_bind (program : Program Request Answer α) (next : α → Program Request Answer β)
    {ended : β} :
    (program.bind next).Ends answered before ended after ↔
      ∃ result middle, program.Ends answered before result middle ∧
        (next result).Ends answered middle ended after := by
  induction program generalizing before with
  | done result =>
      constructor
      · exact fun ends => ⟨result, before, ⟨rfl, rfl⟩, ends⟩
      · rintro ⟨_, _, ⟨rfl, rfl⟩, ends⟩
        exact ends
  | ask request first ih =>
      constructor
      · rintro ⟨answer, middle, answers, ends⟩
        rcases (ih answer).mp ends with ⟨result, later, endsFirst, endsNext⟩
        exact ⟨result, later, ⟨answer, middle, answers, endsFirst⟩, endsNext⟩
      · rintro ⟨result, later, ⟨answer, middle, answers, endsFirst⟩, endsNext⟩
        exact ⟨answer, middle, answers, (ih answer).mpr ⟨result, later, endsFirst, endsNext⟩⟩

/-- Where every request has some answer, every program ends. -/
theorem exists_ends
    (answers : ∀ request before, ∃ answer after, answered request before answer after)
    (program : Program Request Answer α) (before : σ) :
    ∃ result after, program.Ends answered before result after := by
  induction program generalizing before with
  | done result => exact ⟨result, before, rfl, rfl⟩
  | ask request next ih =>
      rcases answers request before with ⟨answer, middle, answersRequest⟩
      rcases ih answer middle with ⟨result, after, ends⟩
      exact ⟨result, after, answer, middle, answersRequest, ends⟩

/-- A program that keeps to a discipline ends in a state that fits the stage of its end. -/
theorem Ends.fits {Stage : Type}
    {moves : Stage → (request : Request) → (Answer request → Stage) → Prop}
    {ends : α → Stage → Prop} {fits : Stage → σ → Prop} (upheld : Upheld moves answered fits)
    {program : Program Request Answer α} {result : α}
    (ended : program.Ends answered before result after) {stage : Stage}
    (follows : program.Follows moves ends stage) (fit : fits stage before) :
    ∃ reached, ends result reached ∧ fits reached after := by
  induction program generalizing before stage with
  | done value =>
      rcases ended with ⟨rfl, rfl⟩
      exact ⟨stage, follows, fit⟩
  | ask request next ih =>
      rcases ended with ⟨answer, middle, answers, rest⟩
      rcases follows with ⟨later, move, follows⟩
      exact ih answer rest (follows answer) (upheld move fit answers)

/-- Running a program against surroundings that are a function is one of the ways in which it ends,
as far as what is seen of the surroundings goes. -/
theorem ends_run (view : τ → σ) {step : (request : Request) → τ → Answer request × τ}
    {holds : τ → Prop}
    (answers : ∀ request state, holds state →
      answered request (view state) (step request state).1 (view (step request state).2) ∧
        holds (step request state).2)
    (program : Program Request Answer α) {state : τ} (holdsNow : holds state) :
    program.Ends answered (view state) (program.run step state).1
      (view (program.run step state).2) := by
  induction program generalizing state with
  | done result => exact ⟨rfl, rfl⟩
  | ask request next ih =>
      rcases answers request state holdsNow with ⟨answer, holdsThen⟩
      exact ⟨(step request state).1, _, answer, ih _ holdsThen⟩

section Failing

variable {ε : Type} {ended : Except ε β}

theorem ends_run_bind (first : ExceptT ε (Program Request Answer) α)
    (next : α → ExceptT ε (Program Request Answer) β) :
    (first >>= next).run.Ends answered before ended after ↔
      ∃ outcome middle, first.run.Ends answered before outcome middle ∧
        match outcome with
        | .ok value => (next value).run.Ends answered middle ended after
        | .error failure => ended = .error failure ∧ after = middle := by
  change Ends answered (Program.bind first.run _) before ended after ↔ _
  rw [ends_bind]
  refine exists_congr fun outcome => ?_
  cases outcome with
  | ok value => exact Iff.rfl
  | error failure => exact Iff.rfl

/-- A program that visits items in turn, where no visit fails from a state in which what holds after
the visits before it holds. -/
theorem ends_forM {visit : β → ExceptT ε (Program Request Answer) Unit} {items : List β}
    {ended : Except ε Unit} (holds : List β → σ → Prop)
    (visits : ∀ done item rest, items = done ++ item :: rest → ∀ before outcome after,
      holds done before → (visit item).run.Ends answered before outcome after →
        outcome = .ok () ∧ holds (done ++ [item]) after)
    (start : holds [] before) (ends : (items.forM visit).run.Ends answered before ended after) :
    ended = .ok () ∧ holds items after := by
  suffices ∀ done rest, items = done ++ rest → ∀ before, holds done before →
      (rest.forM visit).run.Ends answered before ended after →
        ended = .ok () ∧ holds items after from this [] items rfl before start ends
  intro done rest split before holdsDone ends
  induction rest generalizing done before with
  | nil =>
      rcases ends with ⟨rfl, rfl⟩
      rw [split, List.append_nil]
      exact ⟨rfl, holdsDone⟩
  | cons item rest ih =>
      rcases (ends_run_bind _ _).mp ends with ⟨outcome, middle, endsVisit, endsRest⟩
      rcases visits done item rest split before outcome middle holdsDone endsVisit with
          ⟨rfl, holdsThen⟩
      exact ih (done ++ [item]) (by simp [split]) middle holdsThen endsRest

end Failing

end VolumeAttacher.Program
