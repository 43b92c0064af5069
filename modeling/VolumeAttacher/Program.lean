/-!
# Programs

A program of the attacher does its work by requests to its surroundings: it asks, gets an answer of
the type that belongs to the request, and goes on. A `Program` is the tree of these requests, so
that what a program may ask, in which order and how often can be read off it, and so that programs
can be run step by step, alone or interleaved with others.
-/

namespace VolumeAttacher

/-- A program that makes requests and ends with a result. -/
inductive Program (Request : Type) (Answer : Request → Type) (α : Type) : Type where
  | done (result : α)
  | ask (request : Request) (next : Answer request → Program Request Answer α)

namespace Program

variable {Request : Type} {Answer : Request → Type} {α β γ : Type}

/-- Goes on with a second program after the first one. -/
def bind : Program Request Answer α → (α → Program Request Answer β) → Program Request Answer β
  | done result, next => next result
  | ask request first, next => ask request fun answer => (first answer).bind next

instance : Monad (Program Request Answer) where
  pure := done
  bind := bind

def request (request : Request) : Program Request Answer (Answer request) :=
  ask request done

/-- Runs a program against surroundings that answer requests and may change by them. -/
def run {σ : Type} (step : (request : Request) → σ → Answer request × σ) :
    Program Request Answer α → σ → α × σ
  | done result, state => (result, state)
  | ask request next, state =>
      let (answer, state) := step request state
      (next answer).run step state

/-- A program whose requests are made as requests of another kind. -/
def embed {Request' : Type} {Answer' : Request' → Type} (into : Request → Request')
    (back : (request : Request) → Answer' (into request) → Answer request) :
    Program Request Answer α → Program Request' Answer' α
  | done result => done result
  | ask request next =>
      ask (into request) fun answer => (next (back request answer)).embed into back

@[simp] theorem done_bind (result : α) (next : α → Program Request Answer β) :
    (done result).bind next = next result := rfl

@[simp] theorem bind_done (program : Program Request Answer α) : program.bind done = program := by
  induction program with
  | done result => rfl
  | ask request next ih => simp [bind, ih]

theorem bind_assoc (program : Program Request Answer α) (second : α → Program Request Answer β)
    (third : β → Program Request Answer γ) :
    (program.bind second).bind third = program.bind fun result => (second result).bind third := by
  induction program with
  | done result => rfl
  | ask request next ih => simp [bind, ih]

instance : LawfulMonad (Program Request Answer) :=
  LawfulMonad.mk' (Program Request Answer) (fun program => bind_done program)
    (fun result next => done_bind result next)
    (fun program second third => bind_assoc program second third)

end Program

end VolumeAttacher
