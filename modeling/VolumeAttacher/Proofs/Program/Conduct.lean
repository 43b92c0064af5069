import VolumeAttacher.Program

/-!
# The conduct of programs

Many laws about programs are of one sort: whatever the surroundings do, some property of their state
is kept. To prove such a law one has to know what a program may request at each point, and this is
said here once for all laws. A discipline has stages, and tells which requests may be made in a
stage and in which stage the program then goes on, given the answer. `Program.Follows` states that a
program keeps to a discipline.

A law is then proved by giving each stage a meaning, a property of the state of the surroundings,
and showing for each move of the discipline that the answer keeps it. `Program.Runs.fits` carries
this over to complete runs of programs.
-/

namespace VolumeAttacher.Program

variable {Request : Type} {Answer : Request → Type} {Stage σ α β : Type}

/-- Whether a program keeps to the moves of a discipline from a stage on, and ends in a stage that
fits its result. -/
def Follows (moves : Stage → (request : Request) → (Answer request → Stage) → Prop)
    (ends : α → Stage → Prop) : Program Request Answer α → Stage → Prop
  | done result, stage => ends result stage
  | ask request next, stage =>
      ∃ later, moves stage request later ∧
        ∀ answer, (next answer).Follows moves ends (later answer)

variable {moves : Stage → (request : Request) → (Answer request → Stage) → Prop}

@[simp]
theorem follows_done (ends : α → Stage → Prop) (result : α) (stage : Stage) :
    (done result : Program Request Answer α).Follows moves ends stage ↔ ends result stage :=
  Iff.rfl

theorem follows_ask (ends : α → Stage → Prop) (request : Request)
    (next : Answer request → Program Request Answer α) (stage : Stage) :
    (ask request next).Follows moves ends stage ↔
      ∃ later, moves stage request later ∧
        ∀ answer, (next answer).Follows moves ends (later answer) :=
  Iff.rfl

/-- A program that goes on with a second one keeps to a discipline if both do. -/
theorem follows_bind (ends : β → Stage → Prop) (program : Program Request Answer α)
    (next : α → Program Request Answer β) (stage : Stage) :
    (program.bind next).Follows moves ends stage ↔
      program.Follows moves (fun result => (next result).Follows moves ends) stage := by
  induction program generalizing stage with
  | done result => simp only [done_bind, follows_done]
  | ask request first ih =>
      simp only [bind, follows_ask]
      apply exists_congr
      intro later
      apply and_congr_right
      intro _
      exact forall_congr' fun answer => ih answer (later answer)

theorem Follows.mono {ends weaker : α → Stage → Prop} {program : Program Request Answer α}
    {stage : Stage} (follows : program.Follows moves ends stage)
    (implies : ∀ result stage, ends result stage → weaker result stage) :
    program.Follows moves weaker stage := by
  induction program generalizing stage with
  | done result => exact implies result stage follows
  | ask request next ih =>
      rcases follows with ⟨later, move, rest⟩
      exact ⟨later, move, fun answer => ih answer (rest answer)⟩

/-- A program whose requests are made as requests of another kind keeps to a discipline of these. -/
theorem follows_embed {Request' : Type} {Answer' : Request' → Type} {ends : α → Stage → Prop}
    {moves' : Stage → (request : Request') → (Answer' request → Stage) → Prop}
    (into : Request → Request')
    (back : (request : Request) → Answer' (into request) → Answer request)
    {program : Program Request Answer α} {stage : Stage}
    (follows : program.Follows moves ends stage)
    (maps : ∀ stage request later, moves stage request later →
      moves' stage (into request) fun answer => later (back request answer)) :
    (program.embed into back).Follows moves' ends stage := by
  induction program generalizing stage with
  | done result => exact follows
  | ask request next ih =>
      rcases follows with ⟨later, move, rest⟩
      exact ⟨_, maps stage request later move, fun answer => ih _ (rest _)⟩

/-- The complete runs of a program in surroundings that a relation describes: how a request may be
answered in a state, and in which state this leaves them. The states after the answers are listed in
order. -/
inductive Runs (answered : (request : Request) → σ → Answer request → σ → Prop) :
    Program Request Answer α → σ → List σ → α → Prop
  | done (result : α) (state : σ) : Runs answered (done result) state [] result
  | ask {request : Request} {next : Answer request → Program Request Answer α} {state after : σ}
      {answer : Answer request} {states : List σ} {result : α}
      (answers : answered request state answer after)
      (rest : Runs answered (next answer) after states result) :
      Runs answered (ask request next) state (after :: states) result

variable {answered : (request : Request) → σ → Answer request → σ → Prop}

theorem runs_done {result ended : α} {state : σ} {states : List σ} :
    Runs answered (done result) state states ended ↔ states = [] ∧ ended = result := by
  constructor
  · intro run
    cases run
    exact ⟨rfl, rfl⟩
  · rintro ⟨rfl, rfl⟩
    exact .done ended state

theorem runs_ask {request : Request} {next : Answer request → Program Request Answer α}
    {state : σ} {states : List σ} {ended : α} :
    Runs answered (ask request next) state states ended ↔
      ∃ answer after rest, answered request state answer after ∧ states = after :: rest ∧
        Runs answered (next answer) after rest ended := by
  constructor
  · intro run
    cases run with
    | ask answers rest => exact ⟨_, _, _, answers, rfl, rest⟩
  · rintro ⟨answer, after, rest, answers, rfl, run⟩
    exact .ask answers run

/-- A meaning of stages is upheld if every answered move leads from a state that fits the stage to
one that fits the next stage. -/
def Upheld (moves : Stage → (request : Request) → (Answer request → Stage) → Prop)
    (answered : (request : Request) → σ → Answer request → σ → Prop)
    (fits : Stage → σ → Prop) : Prop :=
  ∀ ⦃stage request later⦄, moves stage request later →
    ∀ ⦃state answer after⦄, fits stage state → answered request state answer after →
      fits (later answer) after

/-- A program that keeps to a discipline passes only states that fit some stage, and it ends in one
that fits the stage of its end. -/
theorem Runs.fits {ends : α → Stage → Prop} {fits : Stage → σ → Prop}
    (upheld : Upheld moves answered fits) {program : Program Request Answer α} {state : σ}
    {states : List σ} {result : α} (run : Runs answered program state states result)
    {stage : Stage} (follows : program.Follows moves ends stage) (fit : fits stage state) :
    (∀ passed ∈ states, ∃ reached, fits reached passed) ∧
      ∃ reached, ends result reached ∧ fits reached (states.getLastD state) := by
  induction run generalizing stage with
  | done result state => exact ⟨by simp, stage, follows, fit⟩
  | @ask request next state after answer states result answers rest ih =>
      rcases follows with ⟨later, move, follows⟩
      have fitAfter := upheld move fit answers
      rcases ih (follows answer) fitAfter with ⟨passed, ended⟩
      refine ⟨?_, ?_⟩
      · intro reached reachedMem
        rcases List.mem_cons.mp reachedMem with rfl | reachedLater
        · exact ⟨_, fitAfter⟩
        · exact passed reached reachedLater
      · rw [List.getLastD_cons]
        exact ended

/-- Running a program against surroundings that are a function is one of its runs, as far as what is
seen of the surroundings goes. -/
theorem runs_run {τ : Type} (view : τ → σ) {step : (request : Request) → τ → Answer request × τ}
    (answers : ∀ request state, answered request (view state) (step request state).1
      (view (step request state).2))
    (program : Program Request Answer α) (state : τ) :
    ∃ states, Runs answered program (view state) states (program.run step state).1 ∧
      states.getLastD (view state) = view (program.run step state).2 := by
  induction program generalizing state with
  | done result => exact ⟨[], .done result (view state), rfl⟩
  | ask request next ih =>
      rcases ih (step request state).1 (step request state).2 with ⟨states, rest, last⟩
      refine ⟨view (step request state).2 :: states, .ask (answers request state) rest, ?_⟩
      rw [List.getLastD_cons]
      exact last

end VolumeAttacher.Program
