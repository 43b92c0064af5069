import VolumeAttacher.Proofs.Program.Conduct

/-!
# Programs that heed what they are told

What a program requests may depend on the answers that it has been given. `Program.Heeds` states
that it makes only requests that it may make as long as it is told nothing but what it may be told.
What may be requested and what may be told are fixed, so that facts about what has been told remain
at hand in the rest of the program. What is left of a program heeds the same, so programs can be
followed through surroundings with themselves as the stages.
-/

namespace VolumeAttacher.Program

variable {Request : Type} {Answer : Request → Type} {α β : Type}

/-- Whether a program makes only requests that it may make, and ends with a result that is wanted,
as long as it is told nothing but what it may be told. -/
def Heeds (may : Request → Prop) (told : (request : Request) → Answer request → Prop)
    (ends : α → Prop) : Program Request Answer α → Prop
  | done result => ends result
  | ask request next =>
      may request ∧ ∀ answer, told request answer → (next answer).Heeds may told ends

variable {may wider : Request → Prop} {told narrower : (request : Request) → Answer request → Prop}

theorem heeds_bind {ends : β → Prop} (program : Program Request Answer α)
    (next : α → Program Request Answer β) :
    (program.bind next).Heeds may told ends ↔
      program.Heeds may told fun result => (next result).Heeds may told ends := by
  induction program with
  | done result => exact Iff.rfl
  | ask request first ih =>
      apply and_congr_right
      intro _
      exact forall_congr' fun answer => imp_congr_right fun _ => ih answer

theorem heeds_anything (program : Program Request Answer α) :
    program.Heeds (fun _ => True) (fun _ _ => True) fun _ => True := by
  induction program with
  | done result => trivial
  | ask request next ih => exact ⟨trivial, fun answer _ => ih answer⟩

/-- A program heeds less if it may request more, and if it may be told less. -/
theorem Heeds.mono {ends weaker : α → Prop} {program : Program Request Answer α}
    (heeds : program.Heeds may told ends) (widens : ∀ request, may request → wider request)
    (narrows : ∀ request answer, narrower request answer → told request answer)
    (weakens : ∀ result, ends result → weaker result) :
    program.Heeds wider narrower weaker := by
  induction program with
  | done result => exact weakens result heeds
  | ask request next ih =>
      rcases heeds with ⟨mayRequest, rest⟩
      refine ⟨widens request mayRequest, ?_⟩
      intro answer tells
      exact ih answer (rest answer (narrows request answer tells))

/-- A program whose requests are made as requests of another kind. -/
theorem heeds_embed {Request' : Type} {Answer' : Request' → Type} {may' : Request' → Prop}
    {told' : (request : Request') → Answer' request → Prop} (into : Request → Request')
    (back : (request : Request) → Answer' (into request) → Answer request) {ends : α → Prop}
    {program : Program Request Answer α}
    (heeds : program.Heeds may told ends) (mays : ∀ request, may request → may' (into request))
    (tells : ∀ request answer, told' (into request) answer → told request (back request answer)) :
    (program.embed into back).Heeds may' told' ends := by
  induction program with
  | done result => exact heeds
  | ask request next ih =>
      rcases heeds with ⟨mayRequest, rest⟩
      refine ⟨mays request mayRequest, ?_⟩
      intro answer told
      exact ih _ (rest _ (tells request answer told))

/-- A program that heeds whatever it is told stays in a stage in which it may make its requests. -/
theorem Heeds.follows {Stage : Type}
    {moves : Stage → (request : Request) → (Answer request → Stage) → Prop} {stage : Stage}
    {ends : α → Prop} {program : Program Request Answer α} (heeds : program.Heeds may told ends)
    (tells : ∀ request answer, told request answer)
    (allowed : ∀ request, may request → moves stage request fun _ => stage) :
    program.Follows moves (fun result after => ends result ∧ after = stage) stage := by
  induction program with
  | done result => exact ⟨heeds, rfl⟩
  | ask request next ih =>
      rcases heeds with ⟨mayRequest, rest⟩
      refine ⟨_, allowed request mayRequest, ?_⟩
      intro answer
      exact ih answer (rest answer (tells request answer))

/-- The discipline of programs that make the requests that they make. -/
def OwnMove (stage : Program Request Answer α) (request : Request)
    (later : Answer request → Program Request Answer α) : Prop :=
  stage = ask request later

theorem follows_own (program : Program Request Answer α) :
    program.Follows OwnMove (fun _ _ => True) program := by
  induction program with
  | done result => trivial
  | ask request next ih => exact ⟨next, rfl, ih⟩

end VolumeAttacher.Program
