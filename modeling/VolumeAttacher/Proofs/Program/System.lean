import Mathlib.Logic.Relation
import VolumeAttacher.Proofs.Program.Conduct

/-!
# Systems of calls

Programs that run at the same time share the state of their surroundings, and the requests of one
may come between any two requests of another. A `System` is such a state with the calls that run,
and its steps are those of single requests: a request is made, and later it is answered.

A law about all runs of a system is proved call by call. Each call keeps to a discipline, and a
meaning of its stages is kept by its own requests, by those of the calls that run beside it, and by
whatever else changes the state. `Upkeep` collects what has to be shown for this.
-/

namespace VolumeAttacher.Program

/-- A call that runs, under a label that says what it works on. -/
structure Call (Request : Type) (Answer : Request → Type) (Label α : Type) where
  label : Label
  /-- Whether the next request of the program has been made and is yet to be answered. -/
  isMade : Bool
  program : Program Request Answer α

structure System (Request : Type) (Answer : Request → Type) (Label α σ : Type) where
  shared : σ
  calls : List (Call Request Answer Label α)

/-- What may happen in a system. -/
structure Rules (Request : Type) (Answer : Request → Type) (Label α σ : Type) where
  /-- Whether a call may begin in a system, and the state afterwards. -/
  begins : Label → Program Request Answer α → System Request Answer Label α σ → σ → Prop
  /-- The state after a request has been made. -/
  makes : Label → Request → σ → σ
  /-- Whether a request that has been made may be answered, and the state afterwards. -/
  answers : Label → (request : Request) → σ → Answer request → σ → Prop
  /-- Whether the state may change in other ways. -/
  changes : σ → σ → Prop

variable {Request : Type} {Answer : Request → Type} {Label Stage α σ : Type}

/-- The steps of a system. -/
inductive Step (rules : Rules Request Answer Label α σ) :
    System Request Answer Label α σ → System Request Answer Label α σ → Prop
  | begin {label : Label} {program : Program Request Answer α}
      {system : System Request Answer Label α σ} {shared : σ}
      (begins : rules.begins label program system shared) :
      Step rules system ⟨shared, ⟨label, false, program⟩ :: system.calls⟩
  | make (before after : List (Call Request Answer Label α)) {label : Label} {request : Request}
      {next : Answer request → Program Request Answer α} {shared : σ} :
      Step rules ⟨shared, before ++ ⟨label, false, ask request next⟩ :: after⟩
        ⟨rules.makes label request shared, before ++ ⟨label, true, ask request next⟩ :: after⟩
  | answer (before after : List (Call Request Answer Label α)) {label : Label} {request : Request}
      {next : Answer request → Program Request Answer α} {shared later : σ}
      {answer : Answer request}
      (answers : rules.answers label request shared answer later) :
      Step rules ⟨shared, before ++ ⟨label, true, ask request next⟩ :: after⟩
        ⟨later, before ++ ⟨label, false, next answer⟩ :: after⟩
  | finish (before after : List (Call Request Answer Label α)) {label : Label} {isMade : Bool}
      {result : α} {shared : σ} :
      Step rules ⟨shared, before ++ ⟨label, isMade, done result⟩ :: after⟩ ⟨shared, before ++ after⟩
  | change {shared later : σ} {calls : List (Call Request Answer Label α)}
      (changes : rules.changes shared later) : Step rules ⟨shared, calls⟩ ⟨later, calls⟩

abbrev Reaches (rules : Rules Request Answer Label α σ) :
    System Request Answer Label α σ → System Request Answer Label α σ → Prop :=
  Relation.ReflTransGen (Step rules)

/-- What is to be shown of a system whose calls keep to a discipline. -/
structure Upkeep (rules : Rules Request Answer Label α σ)
    (moves : Stage → (request : Request) → (Answer request → Stage) → Prop) where
  /-- What holds of every state. -/
  valid : σ → Prop
  /-- The meaning of the stages. -/
  fits : Label → Stage → σ → Prop
  /-- Which calls may run at the same time. -/
  apart : Label → Label → Prop
  apart_symm : ∀ {label other}, apart label other → apart other label
  begins : ∀ {label program system later}, rules.begins label program system later →
    valid system.shared →
    valid later ∧ (∀ call ∈ system.calls, apart label call.label) ∧
      (∃ stage, program.Follows moves (fun _ _ => True) stage ∧ fits label stage later) ∧
      ∀ other stage, apart label other → fits other stage system.shared → fits other stage later
  makes : ∀ {label stage request later shared}, moves stage request later → valid shared →
    fits label stage shared →
    valid (rules.makes label request shared) ∧ fits label stage (rules.makes label request shared) ∧
      ∀ other stage, apart label other → fits other stage shared →
        fits other stage (rules.makes label request shared)
  answers : ∀ {label stage request later shared answer shared'}, moves stage request later →
    rules.answers label request shared answer shared' → valid shared → fits label stage shared →
    valid shared' ∧ fits label (later answer) shared' ∧
      ∀ other stage, apart label other → fits other stage shared → fits other stage shared'
  changes : ∀ {shared later}, rules.changes shared later → valid shared →
    valid later ∧ ∀ label stage, fits label stage shared → fits label stage later

namespace Upkeep

variable {rules : Rules Request Answer Label α σ}
  {moves : Stage → (request : Request) → (Answer request → Stage) → Prop}

/-- Whether a system is kept up: its state is valid, and each call is in a stage that fits. -/
structure Holds (upkeep : Upkeep rules moves) (system : System Request Answer Label α σ) :
    Prop where
  valid : upkeep.valid system.shared
  apart : (system.calls.map Call.label).Pairwise upkeep.apart
  follows : ∀ call ∈ system.calls, ∃ stage,
    call.program.Follows moves (fun _ _ => True) stage ∧ upkeep.fits call.label stage system.shared

variable {upkeep : Upkeep rules moves} {system later : System Request Answer Label α σ}

theorem apart_of_mem {before after : List (Call Request Answer Label α)}
    {call other : Call Request Answer Label α}
    (apart : ((before ++ call :: after).map Call.label).Pairwise upkeep.apart)
    (otherMem : other ∈ before ++ after) : upkeep.apart call.label other.label := by
  rw [List.map_append, List.map_cons, List.pairwise_append] at apart
  rcases apart with ⟨_, rest, across⟩
  rcases List.mem_append.mp otherMem with inBefore | inAfter
  · exact upkeep.apart_symm
      (across _ (List.mem_map_of_mem inBefore) _ List.mem_cons_self)
  · exact (List.pairwise_cons.mp rest).1 _ (List.mem_map_of_mem inAfter)

/-- A call that goes on, with the others kept, keeps up the system. -/
theorem Holds.replace {shared shared' : σ} {before after : List (Call Request Answer Label α)}
    {call call' : Call Request Answer Label α}
    (holds : upkeep.Holds ⟨shared, before ++ call :: after⟩) (same : call'.label = call.label)
    (valid : upkeep.valid shared')
    (follows : ∃ stage, call'.program.Follows moves (fun _ _ => True) stage ∧
      upkeep.fits call'.label stage shared')
    (spares : ∀ other stage, upkeep.apart call.label other → upkeep.fits other stage shared →
      upkeep.fits other stage shared') :
    upkeep.Holds ⟨shared', before ++ call' :: after⟩ where
  valid := valid
  apart := by
    have apart := holds.apart
    simp only [List.map_append, List.map_cons] at apart ⊢
    rw [same]
    exact apart
  follows := by
    intro other otherMem
    have goesOn : other = call' ∨ other ∈ before ++ after := by grind
    rcases goesOn with rfl | beside
    · exact follows
    · have otherBefore : other ∈ before ++ call :: after := by grind
      rcases holds.follows other otherBefore with ⟨stage, followsOther, fit⟩
      exact ⟨stage, followsOther, spares _ _ (apart_of_mem holds.apart beside) fit⟩

/-- Every step keeps up a system. -/
theorem Holds.step (step : Step rules system later) (holds : upkeep.Holds system) :
    upkeep.Holds later := by
  cases step with
  | begin begins =>
      rcases upkeep.begins begins holds.valid with ⟨valid, apart, follows, spares⟩
      refine ⟨valid, ?_, ?_⟩
      · refine List.pairwise_cons.mpr ⟨?_, holds.apart⟩
        intro other otherMem
        rcases List.mem_map.mp otherMem with ⟨call, callMem, rfl⟩
        exact apart call callMem
      · intro call callMem
        rcases List.mem_cons.mp callMem with rfl | beside
        · exact follows
        · rcases holds.follows call beside with ⟨stage, followsCall, fit⟩
          exact ⟨stage, followsCall, spares _ _ (apart call beside) fit⟩
  | make before after =>
      rcases holds.follows _ (List.mem_append_right _ List.mem_cons_self) with
        ⟨stage, ⟨next, move, rest⟩, fit⟩
      rcases upkeep.makes move holds.valid fit with ⟨valid, fitAfter, spares⟩
      exact holds.replace rfl valid ⟨stage, ⟨next, move, rest⟩, fitAfter⟩ spares
  | answer before after answers =>
      rcases holds.follows _ (List.mem_append_right _ List.mem_cons_self) with
        ⟨stage, ⟨next, move, rest⟩, fit⟩
      rcases upkeep.answers move answers holds.valid fit with ⟨valid, fitAfter, spares⟩
      exact holds.replace rfl valid ⟨next _, rest _, fitAfter⟩ spares
  | finish before after =>
      refine ⟨holds.valid, ?_, ?_⟩
      · have apart := holds.apart
        rw [List.map_append, List.map_cons] at apart
        rw [List.map_append]
        exact apart.sublist (List.Sublist.append_left (List.sublist_cons_self _ _) _)
      · intro call callMem
        apply holds.follows
        grind
  | change changes =>
      rcases upkeep.changes changes holds.valid with ⟨valid, spares⟩
      refine ⟨valid, holds.apart, ?_⟩
      intro call callMem
      rcases holds.follows call callMem with ⟨stage, follows, fit⟩
      exact ⟨stage, follows, spares _ _ fit⟩

/-- Every system that is reached from a valid one without calls is kept up. -/
theorem holds_of_reaches (upkeep : Upkeep rules moves) (reaches : Reaches rules system later)
    (noCalls : system.calls = []) (valid : upkeep.valid system.shared) : upkeep.Holds later := by
  induction reaches with
  | refl => exact ⟨valid, by simp [noCalls], by simp [noCalls]⟩
  | tail _ step ih => exact ih.step step

/-- Every state that is reached from a valid one without calls is valid. -/
theorem valid_of_reaches (upkeep : Upkeep rules moves) (reaches : Reaches rules system later)
    (noCalls : system.calls = []) (valid : upkeep.valid system.shared) :
    upkeep.valid later.shared :=
  (upkeep.holds_of_reaches reaches noCalls valid).valid

end Upkeep

/-- A call that is answered by a function runs to its end while others rest. -/
theorem reaches_run_beside {rules : Rules Request Answer Label α σ} (label : Label)
    {respond : (request : Request) → σ → Answer request × σ}
    (answers : ∀ request shared, rules.answers label request (rules.makes label request shared)
      (respond request shared).1 (respond request shared).2)
    (others : List (Call Request Answer Label α)) (program : Program Request Answer α)
    (shared : σ) :
    Reaches rules ⟨shared, ⟨label, false, program⟩ :: others⟩
      ⟨(program.run respond shared).2, others⟩ := by
  induction program generalizing shared with
  | done result => exact .single (.finish [] others)
  | ask request next ih =>
      have made : Step rules ⟨shared, ⟨label, false, ask request next⟩ :: others⟩
          ⟨rules.makes label request shared, ⟨label, true, ask request next⟩ :: others⟩ :=
        .make [] others
      exact .head made (.head (.answer [] others (answers request shared)) (ih _ _))

/-- A single call that is answered by a function runs to its end. -/
theorem reaches_run {rules : Rules Request Answer Label α σ} (label : Label)
    {respond : (request : Request) → σ → Answer request × σ}
    (answers : ∀ request shared, rules.answers label request (rules.makes label request shared)
      (respond request shared).1 (respond request shared).2)
    (program : Program Request Answer α) (shared : σ) :
    Reaches rules ⟨shared, [⟨label, false, program⟩]⟩ ⟨(program.run respond shared).2, []⟩ :=
  reaches_run_beside label answers [] program shared

end VolumeAttacher.Program
