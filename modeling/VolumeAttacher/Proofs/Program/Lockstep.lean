import Mathlib.Data.List.Forall2
import VolumeAttacher.Proofs.Program.Requests

/-!
# Programs in lockstep

Two programs that are given answers that are alike may be bound to go on alike: to make requests
that are alike, one for one, and to end with results that are alike. `Program.Lockstep` states this
for a likeness of requests and answers.

What then follows for two runs depends on the surroundings. If two of them that agree on something
answer alike requests alike and agree on it again, then so it is at the end of both runs.
-/

namespace VolumeAttacher.Program

variable {Request : Type} {Answer : Request → Type} {σ α β γ δ : Type}

/-- Which requests are alike, and which answers to two requests are. -/
structure Likeness (Request : Type) (Answer : Request → Type) where
  requests : Request → Request → Prop
  answers : (request other : Request) → Answer request → Answer other → Prop

variable {likeness : Likeness Request Answer} {ends : α → β → Prop}

/-- Whether two programs make requests that are alike and end with results that fit each other, as
long as both are given answers that are alike. -/
inductive Lockstep (likeness : Likeness Request Answer) (ends : α → β → Prop) :
    Program Request Answer α → Program Request Answer β → Prop
  | done {result : α} {other : β} (ended : ends result other) :
      Lockstep likeness ends (done result) (done other)
  | ask {request other : Request} {next : Answer request → Program Request Answer α}
      {nextOther : Answer other → Program Request Answer β}
      (alike : likeness.requests request other)
      (goesOn : ∀ answer answerOther, likeness.answers request other answer answerOther →
        Lockstep likeness ends (next answer) (nextOther answerOther)) :
      Lockstep likeness ends (ask request next) (ask other nextOther)

namespace Lockstep

variable {program : Program Request Answer α} {other : Program Request Answer β}

theorem refl (program : Program Request Answer α)
    (requests : ∀ request, likeness.requests request request)
    (answers : ∀ request answer other, likeness.answers request request answer other →
      answer = other) :
    Lockstep likeness Eq program program := by
  induction program with
  | done result => exact .done rfl
  | ask request next ih =>
      refine .ask (requests request) ?_
      intro answer other alike
      cases answers request answer other alike
      exact ih answer

theorem mono {weaker : α → β → Prop} (lockstep : Lockstep likeness ends program other)
    (weakens : ∀ result resultOther, ends result resultOther → weaker result resultOther) :
    Lockstep likeness weaker program other := by
  induction lockstep with
  | done ended => exact .done (weakens _ _ ended)
  | ask alike _ ih => exact .ask alike ih

theorem bind {wanted : γ → δ → Prop} {next : α → Program Request Answer γ}
    {nextOther : β → Program Request Answer δ}
    (lockstep : Lockstep likeness
      (fun result resultOther => Lockstep likeness wanted (next result) (nextOther resultOther))
      program other) :
    Lockstep likeness wanted (program.bind next) (other.bind nextOther) := by
  induction lockstep with
  | done ended => exact ended
  | ask alike _ ih => exact .ask alike ih

/-- Programs whose requests are made as requests of another kind. -/
theorem embed {Request' : Type} {Answer' : Request' → Type}
    (likeness' : Likeness Request' Answer') (into : Request → Request')
    (back : (request : Request) → Answer' (into request) → Answer request)
    (lockstep : Lockstep likeness ends program other)
    (requests : ∀ request other, likeness.requests request other →
      likeness'.requests (into request) (into other))
    (answers : ∀ request other answer answerOther,
      likeness'.answers (into request) (into other) answer answerOther →
      likeness.answers request other (back request answer) (back other answerOther)) :
    Lockstep likeness' ends (program.embed into back) (other.embed into back) := by
  induction lockstep with
  | done ended => exact .done ended
  | ask alike _ ih =>
      refine .ask (requests _ _ alike) ?_
      intro answer answerOther answersAlike
      exact ih _ _ (answers _ _ _ _ answersAlike)

end Lockstep

/-- Whether surroundings that agree on something answer alike requests alike and then agree again.
-/
def Likeness.IsUpheld (likeness : Likeness Request Answer)
    (answered : (request : Request) → σ → Answer request → σ → Prop) (agree : σ → σ → Prop) :
    Prop :=
  ∀ ⦃request other⦄, likeness.requests request other →
    ∀ ⦃before beforeOther answer answerOther after afterOther⦄, agree before beforeOther →
      answered request before answer after → answered other beforeOther answerOther afterOther →
      likeness.answers request other answer answerOther ∧ agree after afterOther

/-- Two programs in lockstep that are run in surroundings that agree make requests that are alike,
and leave surroundings that agree. -/
theorem Lockstep.makes {answered : (request : Request) → σ → Answer request → σ → Prop}
    {agree : σ → σ → Prop} {program : Program Request Answer α} {other : Program Request Answer β}
    (lockstep : Lockstep likeness ends program other)
    (upheld : likeness.IsUpheld answered agree)
    {before beforeOther after afterOther : σ} {requests requestsOther : List Request}
    {result : α} {resultOther : β} (agrees : agree before beforeOther)
    (makes : program.Makes answered before requests result after)
    (makesOther : other.Makes answered beforeOther requestsOther resultOther afterOther) :
    List.Forall₂ likeness.requests requests requestsOther ∧ ends result resultOther ∧
      agree after afterOther := by
  induction lockstep generalizing before beforeOther requests requestsOther with
  | done ended =>
      rcases makes with ⟨rfl, rfl, rfl⟩
      rcases makesOther with ⟨rfl, rfl, rfl⟩
      exact ⟨.nil, ended, agrees⟩
  | ask alike _ ih =>
      rcases makes with ⟨answer, middle, rest, answers, rfl, makes⟩
      rcases makesOther with ⟨answerOther, middleOther, restOther, answersOther, rfl, makesOther⟩
      rcases upheld alike agrees answers answersOther with ⟨answersAlike, agreesMiddle⟩
      rcases ih answer answerOther answersAlike agreesMiddle makes makesOther with
        ⟨restAlike, ended, agreesAfter⟩
      exact ⟨.cons alike restAlike, ended, agreesAfter⟩

end VolumeAttacher.Program
