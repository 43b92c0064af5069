import VolumeAttacher.Proofs.Program.Ends

/-!
# Programs whose requests are carried out by programs

A request of one kind may stand for a whole program of requests of another kind, such as a call that
is checked before it is sent. `Program.expand` puts the programs in the place of the requests. A run
of the expanded program is a run of the program itself, in which each request is answered by a run
of what it stands for.
-/

namespace VolumeAttacher.Program

variable {Request : Type} {Answer : Request → Type} {Request' : Type} {Answer' : Request' → Type}
  {α β σ : Type}

/-- A program with each request replaced by the program that carries it out. -/
def expand (carriedOut : (request : Request) → Program Request' Answer' (Answer request)) :
    Program Request Answer α → Program Request' Answer' α
  | done result => done result
  | ask request next => (carriedOut request).bind fun answer => (next answer).expand carriedOut

variable {carriedOut : (request : Request) → Program Request' Answer' (Answer request)}

theorem expand_bind (program : Program Request Answer α) (next : α → Program Request Answer β) :
    (program.bind next).expand carriedOut =
      (program.expand carriedOut).bind fun result => (next result).expand carriedOut := by
  induction program with
  | done result => rfl
  | ask request first ih => simp only [bind, expand, ih, bind_assoc]

/-- A program of requests that are embedded, and carried out as they are, is that program. -/
theorem expand_embed (into : Request' → Request)
    (back : (request : Request') → Answer (into request) → Answer' request)
    (asIs : ∀ request, ((carriedOut (into request)).bind fun answer => done (back request answer)) =
      Program.request request)
    (program : Program Request' Answer' α) :
    (program.embed into back).expand carriedOut = program := by
  induction program with
  | done result => rfl
  | ask request next ih =>
      have carried := congrArg (fun program => Program.bind program next) (asIs request)
      simp only [bind_assoc, done_bind] at carried
      simp only [embed, expand, ih]
      exact carried

theorem embed_bind (into : Request → Request')
    (back : (request : Request) → Answer' (into request) → Answer request)
    (program : Program Request Answer α) (next : α → Program Request Answer β) :
    (program.bind next).embed into back =
      (program.embed into back).bind fun result => (next result).embed into back := by
  induction program with
  | done result => rfl
  | ask request first ih => simp only [bind, embed, ih]

variable {answered : (request : Request') → σ → Answer' request → σ → Prop} {before after : σ}

theorem ends_expand (program : Program Request Answer α) {ended : α} :
    (program.expand carriedOut).Ends answered before ended after ↔
      program.Ends (fun request => (carriedOut request).Ends answered) before ended after := by
  induction program generalizing before with
  | done result => rfl
  | ask request next ih =>
      rw [expand, ends_bind]
      exact exists_congr fun answer => exists_congr fun middle => and_congr_right fun _ => ih answer

end VolumeAttacher.Program
