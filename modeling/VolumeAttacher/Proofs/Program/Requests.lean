import VolumeAttacher.Proofs.Program.Ends

/-!
# The requests that programs make

`Program.Makes` is `Program.Ends` with the requests that are made on the way. A program that asks
only for what is fixed in a state can be read off without running it: `Program.result?` is its
result, given what is fixed, and such a program ends in that way only.
-/

namespace VolumeAttacher.Program

variable {Request : Type} {Answer : Request → Type} {σ α β : Type}

/-- Whether a program that begins in a state may make the listed requests, one after the other, and
end with a result in another state. -/
def Makes (answered : (request : Request) → σ → Answer request → σ → Prop) :
    Program Request Answer α → σ → List Request → α → σ → Prop
  | done result, before, requests, ended, after =>
      requests = [] ∧ ended = result ∧ after = before
  | ask request next, before, requests, ended, after =>
      ∃ answer middle rest, answered request before answer middle ∧ requests = request :: rest ∧
        (next answer).Makes answered middle rest ended after

variable {answered : (request : Request) → σ → Answer request → σ → Prop} {state : σ}

theorem ends_iff_makes (program : Program Request Answer α) {ended : α} {after : σ} :
    program.Ends answered state ended after ↔
      ∃ requests, program.Makes answered state requests ended after := by
  induction program generalizing state with
  | done result =>
      constructor
      · rintro ⟨rfl, rfl⟩
        exact ⟨[], rfl, rfl, rfl⟩
      · rintro ⟨_, _, rfl, rfl⟩
        exact ⟨rfl, rfl⟩
  | ask request next ih =>
      constructor
      · rintro ⟨answer, middle, answers, ends⟩
        rcases (ih answer).mp ends with ⟨rest, makes⟩
        exact ⟨request :: rest, answer, middle, rest, answers, rfl, makes⟩
      · rintro ⟨_, answer, middle, rest, answers, _, makes⟩
        exact ⟨answer, middle, answers, (ih answer).mpr ⟨rest, makes⟩⟩

/-- The result of a program whose requests are answered from what is given; none if it makes a
request to which no answer is given. -/
def result? (given : (request : Request) → Option (Answer request)) :
    Program Request Answer α → Option α
  | done result => some result
  | ask request next => (given request).bind fun answer => (next answer).result? given

variable {given : (request : Request) → Option (Answer request)}

theorem result?_bind (program : Program Request Answer α)
    (next : α → Program Request Answer β) :
    (program.bind next).result? given =
      (program.result? given).bind fun result => (next result).result? given := by
  induction program with
  | done result => rfl
  | ask request first ih =>
      simp only [bind, result?, Option.bind_assoc]
      exact congrArg (Option.bind _) (funext ih)

theorem result?_run_bind {ε : Type} {first : ExceptT ε (Program Request Answer) α}
    {next : α → ExceptT ε (Program Request Answer) β} {value : α}
    (result : first.run.result? given = some (.ok value)) :
    (first >>= next).run.result? given = (next value).run.result? given := by
  change Program.result? given (Program.bind first.run _) = _
  rw [result?_bind, result]
  rfl

/-- Whether a request is answered in a state only as it is given, and changes nothing. -/
def IsFixed (answered : (request : Request) → σ → Answer request → σ → Prop)
    (given : (request : Request) → Option (Answer request)) (state : σ) : Prop :=
  ∀ request answer, given request = some answer →
    ∀ other after, answered request state other after ↔ other = answer ∧ after = state

/-- A program that asks only for what is fixed ends. -/
theorem ends_of_result? (isFixed : IsFixed answered given state)
    {program : Program Request Answer α} {ended : α}
    (result : program.result? given = some ended) :
    program.Ends answered state ended state := by
  induction program with
  | done value =>
      cases result
      exact ⟨rfl, rfl⟩
  | ask request next ih =>
      rcases Option.bind_eq_some_iff.mp result with ⟨answer, isGiven, rest⟩
      exact ⟨answer, state, (isFixed request answer isGiven answer state).mpr ⟨rfl, rfl⟩,
        ih answer rest⟩

/-- A program that asks only for what is fixed ends in one way only. -/
theorem Makes.of_result? (isFixed : IsFixed answered given state)
    {program : Program Request Answer α} {ended other : α}
    (result : program.result? given = some ended) {requests : List Request} {after : σ}
    (makes : program.Makes answered state requests other after) :
    other = ended ∧ after = state ∧ ∀ request ∈ requests, (given request).isSome := by
  induction program generalizing requests with
  | done value =>
      cases result
      rcases makes with ⟨rfl, rfl, rfl⟩
      exact ⟨rfl, rfl, by simp⟩
  | ask request next ih =>
      rcases Option.bind_eq_some_iff.mp result with ⟨answer, isGiven, result⟩
      rcases makes with ⟨answer', middle, rest, answers, rfl, makes⟩
      rcases (isFixed request answer isGiven _ _).mp answers with ⟨rfl, rfl⟩
      rcases ih _ result makes with ⟨same, sameState, given⟩
      refine ⟨same, sameState, List.forall_mem_cons.mpr ⟨?_, given⟩⟩
      rw [isGiven]
      rfl

end VolumeAttacher.Program
