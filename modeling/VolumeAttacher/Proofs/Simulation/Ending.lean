import Mathlib.Logic.Hydra
import VolumeAttacher.Proofs.Simulation.Shift

/-!
# When a run ends

A run ends if and only if it is cancelled. Until then it goes on and its queues stay open, also when
both streams of changes have been closed and all changes have been taken in: the intake then waits
for changes that cannot come.

Once a cancelled run has closed its queues, everybody comes to an end: each act of a worker makes
fewer keys ready or fewer workers present, and between such acts only what is under way goes on,
which is a finite tree of requests for each sync and each sweep. As long as the run has not ended
somebody can act.
-/

namespace VolumeAttacher

open Relation

/-- Whether a program is what another one goes on with after an answer. -/
inductive Program.Continues {Request : Type} {Answer : Request → Type} {α : Type} :
    Program Request Answer α → Program Request Answer α → Prop
  | mk {request : Request} (next : Answer request → Program Request Answer α)
      (answer : Answer request) : Continues (next answer) (.ask request next)

theorem Program.wellFounded_continues {Request : Type} {Answer : Request → Type} {α : Type} :
    WellFounded (@Continues Request Answer α) := by
  refine ⟨fun program => ?_⟩
  induction program with
  | done result => exact ⟨_, fun _ continues => nomatch continues⟩
  | ask request next ih =>
      refine ⟨_, fun _ continues => ?_⟩
      cases continues with
      | mk _ answer => exact ih answer

namespace Simulation

open Reconcile (Job QueueName Request Requests Task)
open WorkQueue (Handout)
open ControllerRun (Seated Phase Keeps)

namespace Shift

variable {absent : List Actor} {shift later : Shift}

/-- Whether everybody has a place, and those who work are in the line. -/
structure Sound (absent : List Actor) (shift : Shift) : Prop where
  seated : Seated absent shift.run
  phase : Phase shift.run
  atWork : ∀ job ∈ shift.jobs, .worker job.task.queue job.worker ∈ shift.run.line

theorem Sound.of_keeps (sound : Sound absent shift) (keeps : Keeps shift.run later.run)
    (jobs : ∀ job ∈ later.jobs, ∃ same ∈ shift.jobs, same.task = job.task ∧
      same.worker = job.worker) : Sound absent later := by
  refine ⟨keeps.seated sound.seated, keeps.phase sound.phase, ?_⟩
  intro job within
  rcases jobs job within with ⟨same, sameWithin, task, worker⟩
  exact keeps.line (task ▸ worker ▸ sound.atWork same sameWithin)

theorem Sound.intake {run : ControllerRun} {jobs : List Job}
    {sweeps : List (Requests (Except Failure Unit))} {before after : List Actor}
    (sound : Sound absent ⟨run, jobs, sweeps⟩) (inLine : run.line = before ++ .intake :: after) :
    Sound absent ⟨(run.withHead .intake (before ++ after)).actIntake, jobs, sweeps⟩ := by
  have keeps := ControllerRun.keeps_withHead inLine
  rcases ControllerRun.actIntake_keeps (keeps.seated sound.seated) (keeps.phase sound.phase) rfl
    with ⟨seated, phase, workers⟩
  exact ⟨seated, phase, fun job within => workers _ _ (keeps.line (sound.atWork job within))⟩

theorem Sound.worker {queue : QueueName} {number : Nat} {before after : List Actor}
    (sound : Sound absent shift)
    (inLine : shift.run.line = before ++ .worker queue number :: after)
    (idle : ∀ job ∈ shift.jobs, job.task.queue = queue → job.worker ≠ number) :
    ∃ absentLater, Sound absentLater (shift.asked queue number
      ((shift.run.withHead (.worker queue number) (before ++ after)).ask queue number)) := by
  have keeps := ControllerRun.keeps_withHead inLine
  have seated := keeps.seated sound.seated
  have phase := keeps.phase sound.phase
  have atWork : ∀ job ∈ shift.jobs, .worker job.task.queue job.worker ∈
      (shift.run.withHead (.worker queue number) (before ++ after)).line ∧
      Actor.worker job.task.queue job.worker ≠ .worker queue number := by
    intro job within
    refine ⟨keeps.line (sound.atWork job within), ?_⟩
    rintro ⟨⟩
    exact idle job within rfl rfl
  generalize isHead : shift.run.withHead (.worker queue number) (before ++ after) = run
    at seated phase atWork ⊢
  have head : run.line = .worker queue number :: (before ++ after) := isHead ▸ rfl
  have asked := WorkQueue.asked_retake (run.world.queue queue)
    ((seated.placed queue number).inLine (head ▸ List.mem_cons_self)).2.2
  unfold ControllerRun.ask
  generalize (run.world.queue queue).retake number = result at asked ⊢
  rcases result with ⟨handout, remaining⟩
  have grows {actor : Actor} (within : actor ∈ run.line) :
      actor ∈ (run.withQueue queue remaining).line := ControllerRun.mem_update.mpr (.inl within)
  cases handout with
  | none =>
      have isOpen : (run.world.queue queue).closed = false := by
        cases asked with
        | nothing isOpen => exact isOpen
      refine ⟨absent, seated.waits asked head rfl, phase.waits seated asked head isOpen, ?_⟩
      intro job within
      rcases atWork job within with ⟨jobInLine, isOther⟩
      exact (ControllerRun.mem_rest_of_asked seated asked head _).mpr ⟨grows jobInLine, isOther⟩
  | some handout =>
      cases handout with
      | ended =>
          refine ⟨_, seated.leaves asked head (by simp), phase.leaves seated asked head, ?_⟩
          intro job within
          rcases atWork job within with ⟨jobInLine, isOther⟩
          show _ ∈ ((run.withQueue queue remaining).rest.leave).line
          rw [ControllerRun.leave_eq]
          exact (ControllerRun.mem_rest_of_asked seated asked head _).mpr ⟨grows jobInLine, isOther⟩
      | key key =>
          refine ⟨absent, seated.takes asked head (by simp), phase.takes asked (by simp), ?_⟩
          intro job within
          rcases List.mem_cons.mp within with rfl | within
          · exact grows (head ▸ List.mem_cons_self)
          · exact grows (atWork job within).1

theorem Sound.acts (sound : Sound absent shift) (acts : shift.Acts later) :
    ∃ absentLater, Sound absentLater later := by
  cases acts with
  | intake before after inLine => exact ⟨absent, sound.intake inLine⟩
  | worker before after inLine idle => exact sound.worker inLine idle
  | sync =>
      refine ⟨absent, sound.of_keeps (ControllerRun.keeps_respond _ _) ?_⟩
      intro job within
      rcases List.mem_append.mp within with within | within
      · exact ⟨job, List.mem_append_left _ within, rfl, rfl⟩
      · rcases List.mem_cons.mp within with rfl | within
        · exact ⟨_, List.mem_append_right _ List.mem_cons_self, rfl, rfl⟩
        · exact ⟨job, List.mem_append_right _ (List.mem_cons_of_mem _ within), rfl, rfl⟩
  | finish =>
      refine ⟨absent, sound.of_keeps (ControllerRun.keeps_finish _ _ _) ?_⟩
      intro job within
      refine ⟨job, ?_, rfl, rfl⟩
      rcases List.mem_append.mp within with within | within
      · exact List.mem_append_left _ within
      · exact List.mem_append_right _ (List.mem_cons_of_mem _ within)
  | sweep =>
      exact ⟨absent, sound.of_keeps (ControllerRun.keeps_respond _ _)
        fun job within => ⟨job, within, rfl, rfl⟩⟩
  | finishSweep => exact ⟨absent, sound.seated, sound.phase, sound.atWork⟩

theorem Sound.meets (sound : Sound absent shift) (meets : shift.Meets later) :
    Sound absent later := by
  have sameJobs : ∀ job ∈ shift.jobs, ∃ same ∈ shift.jobs, same.task = job.task ∧
      same.worker = job.worker := fun job within => ⟨job, within, rfl, rfl⟩
  cases meets with
  | told changes => exact sound.of_keeps (ControllerRun.keeps_tell _ _) sameJobs
  | closedStream stream =>
      exact sound.of_keeps (ControllerRun.keeps_closeStream _ _) sameJobs
  | cancelled => exact sound.of_keeps (ControllerRun.keeps_cancel _) sameJobs
  | fired due alarm =>
      have keeps : Keeps shift.run (shift.run.update (·.fire due alarm)) :=
        ControllerRun.keeps_update fun name => World.stirs_fire _ due alarm name
      exact sound.of_keeps keeps sameJobs
  | resynced => exact sound.of_keeps (ControllerRun.keeps_addTasks _ _) sameJobs
  | swept running => exact ⟨sound.seated, sound.phase, sound.atWork⟩
  | changed world same =>
      exact sound.of_keeps (ControllerRun.SameCourse.keeps
        ⟨⟨rfl, same, rfl, rfl⟩, rfl, rfl⟩) sameJobs

/-- Whether a run has not begun: nobody acts or has gone, and the queues are open and know of no
worker. -/
structure IsFresh (run : ControllerRun) : Prop where
  line : run.line = []
  gone : run.gone = 0
  notCancelled : run.cancelled = false
  isOpen : ∀ queue, (run.world.queue queue).closed = false
  unknown : ∀ queue, (run.signal queue).known = []

theorem sameCourse_setTicker (run : ControllerRun) (alarm : Alarm) (period : Nat) :
    run.SameCourse (run.setTicker alarm period) := by
  unfold ControllerRun.setTicker
  split
  · exact ⟨⟨rfl, fun _ => rfl, rfl, rfl⟩, rfl, rfl⟩
  · exact ⟨⟨rfl, World.queue_withAgenda run.world _, rfl, rfl⟩, rfl, rfl⟩

theorem sound_start {run : ControllerRun} (fresh : IsFresh run) : Sound [] ⟨run.start, [], []⟩ := by
  let staged : ControllerRun := { run with stage := .running }
  have line {actor : Actor} : actor ∈ (staged.join (ControllerRun.crew run.workers)).line ↔
      actor ∈ ControllerRun.crew run.workers := by
    rw [ControllerRun.mem_join]
    simp [staged, fresh.line]
  have keeps := (sameCourse_setTicker (staged.join (ControllerRun.crew run.workers)) .resync
    run.periods.resync).keeps.trans (sameCourse_setTicker _ .reconcile run.periods.reconcile).keeps
  have unknown (queue : QueueName) (number : Nat) : number ∉ (run.signal queue).known := by
    simp [fresh.unknown queue]
  refine ⟨keeps.seated ⟨?_, ?_, ?_, List.nodup_nil, List.nil_subset _, fresh.gone⟩,
    keeps.phase (.running rfl fresh.isOpen fun cancelled => ?_), by simp⟩
  · show (staged.join (ControllerRun.crew run.workers)).line.Nodup
    exact ControllerRun.nodup_join (by simp [staged, fresh.line]) (ControllerRun.nodup_crew _)
  · intro queue
    show (run.signal queue).known.Nodup
    simp [fresh.unknown queue]
  · intro queue number
    have notKnown := unknown queue number
    rw [Signal.mem_known, not_or] at notKnown
    refine ⟨fun inCrew => .inr (.inl (line.mpr (ControllerRun.mem_crew.mpr inCrew))),
      fun inLine => ⟨ControllerRun.mem_crew.mp (line.mp inLine), by simp, notKnown.1⟩,
      fun waits => absurd waits notKnown.1, fun awake => absurd awake notKnown.2⟩
  · exact absurd (fresh.notCancelled.symm.trans cancelled) (by simp)

theorem Reaches.sound {run : ControllerRun} (fresh : IsFresh run)
    (reaches : Reaches ⟨run.start, [], []⟩ shift) : ∃ absent, Sound absent shift := by
  induction reaches with
  | refl => exact ⟨[], sound_start fresh⟩
  | tail _ step ih =>
      rcases ih with ⟨absent, sound⟩
      cases step with
      | acts acts => exact sound.acts acts
      | meets meets => exact ⟨absent, sound.meets meets⟩

/-- The workers that have not gone and the keys that are ready. -/
def stock (run : ControllerRun) : Nat :=
  2 * run.workers - run.gone + (run.world.queue .attachments).ready.length +
    (run.world.queue .volumes).ready.length

/-- The syncs and sweeps that are under way. -/
def underWay (shift : Shift) : Multiset (Requests (Except Failure Unit)) :=
  .ofList (shift.jobs.map Job.rest ++ shift.sweeps)

/-- Whether less is left: fewer workers or keys, or as many while something under way has gone on.
-/
def IsLess : Nat × Multiset (Requests (Except Failure Unit)) →
    Nat × Multiset (Requests (Except Failure Unit)) → Prop :=
  Prod.Lex (· < ·) (CutExpand Program.Continues)

instance : Std.Irrefl (@Program.Continues Request Request.Answer (Except Failure Unit)) :=
  ⟨fun program continues => Program.wellFounded_continues.irrefl.irrefl program continues⟩

theorem wellFounded_isLess : WellFounded IsLess :=
  WellFounded.prod_lex Nat.lt_wfRel.wf Program.wellFounded_continues.cutExpand

def IsClosed (shift : Shift) : Prop :=
  ∀ queue, (shift.run.world.queue queue).closed = true

theorem stock_of_keeps {run later : ControllerRun} (keeps : Keeps run later)
    (closed : ∀ queue, (run.world.queue queue).closed = true) : stock later = stock run := by
  rw [stock, stock, keeps.workers, keeps.gone, (keeps.queue .attachments).ready (closed _),
    (keeps.queue .volumes).ready (closed _)]

theorem isClosed_of_keeps (keeps : Keeps shift.run later.run) (closed : shift.IsClosed) :
    later.IsClosed :=
  fun queue => (keeps.queue queue).closed.trans (closed queue)

theorem stock_withQueue (run : ControllerRun) (queue : QueueName) (remaining : WorkQueue) :
    stock (run.withQueue queue remaining) + (run.world.queue queue).ready.length =
      stock run + remaining.ready.length := by
  have workers : (run.withQueue queue remaining).workers = run.workers := rfl
  have gone : (run.withQueue queue remaining).gone = run.gone := rfl
  rw [stock, stock, ControllerRun.queue_withQueue, ControllerRun.queue_withQueue, workers, gone]
  cases queue with
  | attachments => simp; omega
  | volumes => simp; omega

theorem stock_leave (run : ControllerRun) (present : run.gone < 2 * run.workers) :
    stock run.rest.leave < stock run := by
  have queue (name : QueueName) : run.rest.leave.world.queue name = run.world.queue name := by
    rw [ControllerRun.leave_eq]
    rfl
  have gone : run.rest.leave.gone = run.gone + 1 := by rw [ControllerRun.leave_eq]; rfl
  have workers : run.rest.leave.workers = run.workers := by rw [ControllerRun.leave_eq]; rfl
  rw [stock, stock, queue, queue, gone, workers]
  omega

/-- A worker that asks at a closed queue leaves fewer keys, or one worker less. -/
theorem stock_asked (shift : Shift) (run : ControllerRun) {queue : QueueName} {number : Nat}
    (closed : ∀ queue, (run.world.queue queue).closed = true)
    (present : run.gone < 2 * run.workers) (idle : number ∉ (run.signal queue).waiting) :
    stock (shift.asked queue number (run.ask queue number)).run < stock run ∧
      (shift.asked queue number (run.ask queue number)).IsClosed := by
  have asked := WorkQueue.asked_retake (run.world.queue queue) idle
  unfold ControllerRun.ask
  generalize (run.world.queue queue).retake number = result at asked ⊢
  rcases result with ⟨handout, remaining⟩
  dsimp only at asked ⊢
  have stockIs := stock_withQueue run queue remaining
  have closedIs (name : QueueName) := (ControllerRun.closed_of_asked asked name).trans (closed name)
  cases asked with
  | nothing isOpen => simp [closed queue] at isOpen
  | key _ _ first =>
      rw [first, List.length_cons] at stockIs
      refine ⟨?_, closedIs⟩
      show stock (run.withQueue queue remaining) < stock run
      omega
  | ended _ _ _ ready =>
      have gone := stock_leave (run.withQueue queue remaining) present
      rw [ready] at stockIs
      dsimp only [Shift.asked]
      refine ⟨by omega, ?_⟩
      intro name
      dsimp only
      rw [ControllerRun.leave_eq]
      exact closedIs name

theorem isLess_of_stock (fewer : stock later.run < stock shift.run) :
    IsLess (stock later.run, later.underWay) (stock shift.run, shift.underWay) :=
  .left _ _ fewer

theorem isLess_of_keeps (keeps : Keeps shift.run later.run) (closed : shift.IsClosed)
    (goesOn : CutExpand Program.Continues later.underWay shift.underWay) :
    IsLess (stock later.run, later.underWay) (stock shift.run, shift.underWay) := by
  rw [stock_of_keeps keeps closed]
  exact .right _ goesOn

theorem ofList_middle {α : Type} (before after : List α) (item : α) :
    Multiset.ofList (before ++ item :: after) = .ofList (before ++ after) + {item} := by
  rw [Multiset.add_comm, Multiset.singleton_add, Multiset.cons_coe, Multiset.coe_eq_coe]
  exact List.perm_middle

theorem underWay_job {run : ControllerRun} {before after : List Job} {job : Job}
    {sweeps : List (Requests (Except Failure Unit))} :
    underWay ⟨run, before ++ job :: after, sweeps⟩ =
      underWay ⟨run, before ++ after, sweeps⟩ + {job.rest} := by
  simp only [underWay, List.map_append, List.map_cons, List.append_assoc, List.cons_append]
  exact ofList_middle _ _ _

theorem underWay_sweep {run : ControllerRun} {jobs : List Job}
    {before after : List (Requests (Except Failure Unit))}
    {sweep : Requests (Except Failure Unit)} :
    underWay ⟨run, jobs, before ++ sweep :: after⟩ =
      underWay ⟨run, jobs, before ++ after⟩ + {sweep} := by
  simp only [underWay, ← List.append_assoc]
  exact ofList_middle _ _ _

theorem cutExpand_ended {α : Type} {step : α → α → Prop} (rest : Multiset α) (ended : α) :
    CutExpand step rest (rest + {ended}) := by
  have cut : CutExpand step (rest + 0) (rest + {ended}) :=
    (cutExpand_add_left rest).mpr cutExpand_zero
  rwa [add_zero] at cut

/-- Each act leaves less to be done once the queues are closed. -/
theorem Acts.isLess (acts : shift.Acts later) (sound : Sound absent shift)
    (closed : shift.IsClosed) :
    IsLess (stock later.run, later.underWay) (stock shift.run, shift.underWay) ∧
      later.IsClosed := by
  cases acts with
  | intake before after inLine =>
      cases sound.phase with
      | running _ isOpen =>
          exact absurd ((isOpen .attachments).symm.trans (closed .attachments)) (by simp)
      | stopped _ _ _ away =>
          exact absurd (inLine ▸ List.mem_append_right _ List.mem_cons_self) away
  | @worker before after _ queue number inLine idle =>
      have keeps := ControllerRun.keeps_withHead inLine
      have seated := keeps.seated sound.seated
      have atHead : .worker queue number ∈
        (shift.run.withHead (.worker queue number) (before ++ after)).line := List.mem_cons_self
      rcases stock_asked shift (shift.run.withHead (.worker queue number) (before ++ after)) closed
        (seated.gone_lt atHead) ((seated.placed queue number).inLine atHead).2.2
        with ⟨fewer, stillClosed⟩
      exact ⟨isLess_of_stock fewer, stillClosed⟩
  | @sync before after run _ _ _ request =>
      have keeps := ControllerRun.keeps_respond run request
      refine ⟨isLess_of_keeps keeps closed ?_, isClosed_of_keeps keeps closed⟩
      rw [underWay_job, underWay_job]
      exact cutExpand_add_single _ (.mk _ _)
  | @finish before after run _ _ task result =>
      have keeps := ControllerRun.keeps_finish run task result
      refine ⟨isLess_of_keeps keeps closed ?_, isClosed_of_keeps keeps closed⟩
      rw [underWay_job]
      exact cutExpand_ended _ _
  | @sweep before after run _ request =>
      have keeps := ControllerRun.keeps_respond run request
      refine ⟨isLess_of_keeps keeps closed ?_, isClosed_of_keeps keeps closed⟩
      rw [underWay_sweep, underWay_sweep]
      exact cutExpand_add_single _ (.mk _ _)
  | finishSweep =>
      refine ⟨isLess_of_keeps (.refl _) closed ?_, closed⟩
      rw [underWay_sweep]
      exact cutExpand_ended _ _

/-- Once the queues are closed everybody comes to an end. The induction is on what is left to be
done, which each act makes less. -/
theorem Sound.acc (sound : Sound absent shift) (closed : shift.IsClosed) :
    Acc (fun later shift => Acts shift later) shift := by
  generalize isLeft : (stock shift.run, shift.underWay) = left
  induction left using wellFounded_isLess.induction generalizing shift absent with
  | _ left ih =>
      refine ⟨_, fun later acts => ?_⟩
      rcases acts.isLess sound closed with ⟨less, stillClosed⟩
      rcases sound.acts acts with ⟨absentLater, soundLater⟩
      exact ih _ (isLeft ▸ less) soundLater stillClosed rfl

/-- Whether a run has returned, with nobody at work. -/
structure HasEnded (shift : Shift) : Prop where
  stage : shift.run.stage = .ended (.ok ())
  allGone : shift.run.allGone = true
  closed : shift.IsClosed
  jobs : shift.jobs = []
  sweeps : shift.sweeps = []

/-- Some worker is in the line of a run that has been stopped and has not ended. -/
theorem exists_inLine (sound : Sound absent shift)
    (nobody : ∀ queue, (shift.run.signal queue).waiting = [])
    (goesOn : shift.run.allGone = false) :
    ∃ queue number, .worker queue number ∈ shift.run.line := by
  by_contra none
  have allAbsent : ControllerRun.crew shift.run.workers ⊆ absent := by
    intro actor inCrew
    cases actor with
    | intake => simp [ControllerRun.crew] at inCrew
    | worker queue number =>
        rcases (sound.seated.placed queue number).somewhere (ControllerRun.mem_crew.mp inCrew)
          with isAbsent | inLine | waits
        · exact isAbsent
        · exact absurd ⟨queue, number, inLine⟩ none
        · rw [nobody] at waits
          contradiction
  have atLeast := (List.subperm_of_subset (ControllerRun.nodup_crew _) allAbsent).length_le
  have atMost := (List.subperm_of_subset sound.seated.absentNodup sound.seated.absentCrew).length_le
  rw [ControllerRun.length_crew, ← sound.seated.gone] at atLeast atMost
  have notAll : shift.run.gone ≠ 2 * shift.run.workers := of_decide_eq_false goesOn
  omega

theorem exists_acts (sound : Sound absent shift) (cancelled : shift.run.cancelled = true)
    (goesOn : ¬shift.HasEnded) : ∃ later, shift.Acts later := by
  rcases shift with ⟨run, jobs, sweeps⟩
  cases jobs with
  | cons job jobs =>
      rcases job with ⟨worker, task, rest⟩
      cases rest with
      | done result => exact ⟨_, .finish [] jobs⟩
      | ask request next => exact ⟨_, .sync [] jobs⟩
  | nil =>
      cases sweeps with
      | cons sweep sweeps =>
          cases sweep with
          | done result => exact ⟨_, .finishSweep [] sweeps⟩
          | ask request next => exact ⟨_, .sweep [] sweeps⟩
      | nil =>
          cases sound.phase with
          | running stage isOpen noticed =>
              rcases List.append_of_mem (noticed cancelled) with ⟨before, after, inLine⟩
              exact ⟨_, .intake before after inLine⟩
          | stopped _ closed nobody away stage =>
              cases allGone : run.allGone with
              | true =>
                  rw [allGone] at stage
                  exact absurd ⟨stage, allGone, closed, rfl, rfl⟩ goesOn
              | false =>
                  rcases exists_inLine sound nobody allGone with ⟨queue, number, within⟩
                  rcases List.append_of_mem within with ⟨before, after, inLine⟩
                  exact ⟨_, .worker before after inLine (by simp)⟩

theorem cancelled_tell (run : ControllerRun) (changes : List Event) :
    (run.tell changes).cancelled = run.cancelled := by
  unfold ControllerRun.tell ControllerRun.wakeIntake
  dsimp only
  split
  · rfl
  · split <;> rfl

theorem cancelled_addTasks (run : ControllerRun) (tasks : List Task) :
    (run.addTasks tasks).cancelled = run.cancelled := by
  induction tasks generalizing run with
  | nil => rfl
  | cons task tasks ih => exact ih _

theorem cancelled_respond (run : ControllerRun) (request : Request) :
    (run.respond request).2.cancelled = run.cancelled := by
  unfold ControllerRun.respond
  dsimp only
  split
  · exact cancelled_tell _ _
  · rfl

theorem cancelled_actIntake (run : ControllerRun) :
    run.actIntake.cancelled = run.cancelled := by
  rw [ControllerRun.actIntake_eq]
  split
  · rfl
  · split
    · rfl
    · exact cancelled_addTasks _ _

theorem cancelled_asked (queue : QueueName) (number : Nat)
    (result : Option Handout × ControllerRun) :
    (shift.asked queue number result).run.cancelled = result.2.cancelled := by
  rcases result with ⟨handout, run⟩
  rcases handout with _ | _ | _
  · rfl
  · rfl
  · show run.rest.leave.cancelled = run.cancelled
    rw [ControllerRun.leave_eq]
    rfl

theorem Acts.cancelled (acts : shift.Acts later) : later.run.cancelled = shift.run.cancelled := by
  cases acts with
  | intake => exact cancelled_actIntake _
  | worker => exact cancelled_asked _ _ _
  | sync => exact cancelled_respond _ _
  | finish => rfl
  | sweep => exact cancelled_respond _ _
  | finishSweep => rfl

theorem cancelled_of_acts (acts : ReflTransGen Acts shift later) :
    later.run.cancelled = shift.run.cancelled := by
  induction acts with
  | refl => rfl
  | tail _ acts ih => exact acts.cancelled.trans ih

theorem Sound.reached (sound : Sound absent shift) (acts : ReflTransGen Acts shift later) :
    ∃ absentLater, Sound absentLater later := by
  induction acts with
  | refl => exact ⟨absent, sound⟩
  | tail _ acts ih =>
      rcases ih with ⟨absentLater, soundLater⟩
      exact soundLater.acts acts

/-- A cancelled run with closed queues can end by what its own do. -/
theorem Sound.exists_hasEnded (sound : Sound absent shift) (cancelled : shift.run.cancelled = true)
    (closed : shift.IsClosed) : ∃ later, ReflTransGen Acts shift later ∧ later.HasEnded := by
  induction sound.acc closed generalizing absent with
  | intro shift _ ih =>
      by_cases ended : shift.HasEnded
      · exact ⟨shift, .refl, ended⟩
      · rcases exists_acts sound cancelled ended with ⟨next, acts⟩
        rcases sound.acts acts with ⟨absentNext, soundNext⟩
        rcases ih next acts soundNext (acts.cancelled.trans cancelled)
          (acts.isLess sound closed).2 with ⟨later, onwards, hasEnded⟩
        exact ⟨later, .head acts onwards, hasEnded⟩

/-- What belongs to a run ends it only if it was cancelled. -/
theorem Sound.cancelled_of_hasEnded (sound : Sound absent shift)
    (acts : ReflTransGen Acts shift later) (hasEnded : later.HasEnded) :
    shift.run.cancelled = true := by
  rcases sound.reached acts with ⟨absentLater, soundLater⟩
  rw [← cancelled_of_acts acts]
  cases soundLater.phase with
  | running stage =>
      rw [hasEnded.stage] at stage
      contradiction
  | stopped cancelled => exact cancelled

theorem isClosed_actIntake {run : ControllerRun} (cancelled : run.cancelled = true)
    (queue : QueueName) : (run.actIntake.world.queue queue).closed = true := by
  rw [ControllerRun.actIntake_eq, if_pos cancelled]
  cases queue <;> rfl

/-- A run ends if and only if it is cancelled, whatever has happened to its streams of changes. As
long as it is not cancelled it goes on with open queues. A cancelled run that has not ended is not
stuck, and once its queues are closed its own cannot act without end. -/
theorem ends_iff_cancelled {run : ControllerRun} (fresh : IsFresh run)
    (reaches : Reaches ⟨run.start, [], []⟩ shift) :
    ((∃ later, ReflTransGen Acts shift later ∧ later.HasEnded) ↔ shift.run.cancelled = true) ∧
      (shift.run.cancelled = false → shift.run.stage = .running ∧
        ∀ queue, (shift.run.world.queue queue).closed = false) ∧
      (shift.run.cancelled = true → ¬shift.HasEnded → ∃ later, shift.Acts later) ∧
      (shift.IsClosed → Acc (fun later shift => Acts shift later) shift) := by
  rcases reaches.sound fresh with ⟨absent, sound⟩
  refine ⟨⟨?_, ?_⟩, ?_, exists_acts sound, sound.acc⟩
  · rintro ⟨later, acts, hasEnded⟩
    exact sound.cancelled_of_hasEnded acts hasEnded
  · intro cancelled
    cases sound.phase with
    | stopped _ closed => exact sound.exists_hasEnded cancelled closed
    | running stage isOpen noticed =>
        rcases List.append_of_mem (noticed cancelled) with ⟨before, after, inLine⟩
        have acts : shift.Acts
            ⟨(shift.run.withHead .intake (before ++ after)).actIntake, shift.jobs, shift.sweeps⟩ :=
          .intake before after inLine
        rcases sound.acts acts with ⟨absentNext, soundNext⟩
        rcases soundNext.exists_hasEnded (acts.cancelled.trans cancelled)
          (isClosed_actIntake cancelled) with ⟨later, onwards, hasEnded⟩
        exact ⟨later, .head acts onwards, hasEnded⟩
  · intro notCancelled
    cases sound.phase with
    | running stage isOpen => exact ⟨stage, isOpen⟩
    | stopped cancelled => simp [notCancelled] at cancelled

/-- A run with one worker for each queue, in a world without objects. -/
def quietRun : ControllerRun where
  world := .initial ⟨5, 1000⟩
  controller := ⟨"csi.example.com", .trivial true⟩

/-- A volume that is told of. -/
def toldVolume : PersistentVolume :=
  { metadata := { name := some "pv-1" }, spec := none }

theorem isFresh_quietRun : IsFresh quietRun := by
  refine ⟨rfl, rfl, rfl, ?_, ?_⟩ <;> (intro queue; cases queue <;> rfl)

/-- Both streams have been closed, the only change has been taken in, and the intake has looked at
the streams again and waits. -/
theorem exists_abandoned : ∃ shift, Reaches ⟨quietRun.start, [], []⟩ shift ∧
    shift.run.closedStreams = [.volumes, .attachments] ∧ shift.run.changes = [] ∧
    .intake ∉ shift.run.line ∧ (shift.run.world.queue .volumes).ready = ["pv-1"] ∧
    shift.run.cancelled = false := by
  have told : Reaches ⟨quietRun.start, [], []⟩ _ :=
    .single (.meets (.told [.volume (.added toldVolume)]))
  have closed := (told.tail (.meets (.closedStream .attachments))).tail
    (.meets (.closedStream .volumes))
  have takenIn := closed.tail
    (.acts (.intake [.worker .attachments 0, .worker .volumes 0] [] rfl))
  have waits := takenIn.tail
    (.acts (.intake [] [.worker .attachments 0, .worker .volumes 0] rfl))
  exact ⟨_, waits, rfl, rfl, by decide, rfl, rfl⟩

/-- When it is cancelled after that, it can end. -/
theorem ends_iff_cancelled_after_streams : ∃ shift, Reaches ⟨quietRun.start, [], []⟩ shift ∧
    shift.run.closedStreams = [.volumes, .attachments] ∧ shift.run.cancelled = true ∧
    ∃ later, ReflTransGen Acts shift later ∧ later.HasEnded := by
  have told : Reaches ⟨quietRun.start, [], []⟩ _ :=
    .single (.meets (.told [.volume (.added toldVolume)]))
  have closed := (told.tail (.meets (.closedStream .attachments))).tail
    (.meets (.closedStream .volumes))
  have cancelled := closed.tail (.meets .cancelled)
  exact ⟨_, cancelled, rfl, rfl, (ends_iff_cancelled isFresh_quietRun cancelled).1.mpr rfl⟩

/-- As long as it is not, it does not end. -/
theorem exists_endless_after_streams : ∃ shift, Reaches ⟨quietRun.start, [], []⟩ shift ∧
    shift.run.closedStreams = [.volumes, .attachments] ∧ shift.run.changes = [] ∧
    .intake ∉ shift.run.line ∧ ¬∃ later, ReflTransGen Acts shift later ∧ later.HasEnded := by
  rcases exists_abandoned with ⟨shift, reached, streams, changes, waits, _, notCancelled⟩
  rcases reached.sound isFresh_quietRun with ⟨absent, sound⟩
  refine ⟨shift, reached, streams, changes, waits, ?_⟩
  rintro ⟨later, acts, hasEnded⟩
  have cancelled := sound.cancelled_of_hasEnded acts hasEnded
  simp [notCancelled] at cancelled

end Shift

end Simulation

end VolumeAttacher
