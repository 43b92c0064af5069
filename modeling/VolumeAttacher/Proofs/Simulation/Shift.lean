import Mathlib.Data.List.Perm.Subperm
import VolumeAttacher.Proofs.Queue.Waking
import VolumeAttacher.Proofs.Reconcile.Crew
import VolumeAttacher.Proofs.Simulation.Intake

/-!
# Shifts

A `Shift` is a run of the controller whose workers take their time: between any two requests of a
sync, or of a sweep over all attachments, anybody else may act, and anything may happen to the run.
Who is in the line acts in any order. `Acts` is what the intake, the workers and the sweeps do, and
`Meets` what happens to them.

Every worker has one place: it has gone, it is in the line, or it waits at its queue. While it works
on a key it is in the line, so that it does not go. The queues are open as long as the run has not
been stopped, which only a cancellation that the intake has noticed does.
-/

namespace VolumeAttacher.Simulation

open Reconcile (Job QueueName Request Requests Task)
open WorkQueue (Handout)

namespace World

variable {world : World}

theorem queue_setQueue (world : World) (name other : QueueName) (queue : WorkQueue) :
    (world.setQueue name queue).queue other =
      if other = name then queue else world.queue other := by
  cases name <;> cases other <;> rfl

theorem stirs_setQueue {name : QueueName} {queue : WorkQueue}
    (stirs : (world.queue name).Stirs queue) (other : QueueName) :
    (world.queue other).Stirs ((world.setQueue name queue).queue other) := by
  rw [queue_setQueue]
  split
  next same => exact same ▸ stirs
  next => exact .refl _

theorem queue_withAgenda (world : World) (agenda : Agenda Alarm) (name : QueueName) :
    { world with agenda }.queue name = world.queue name := by
  cases name <;> rfl

theorem stirs_retry (world : World) (queue : QueueName) (key : String) (name : QueueName) :
    (world.queue name).Stirs ((world.retry queue key).queue name) := by
  have retried (added : Option Nat × WorkQueue) (stirs : (world.queue queue).Stirs added.2) :
      (world.queue name).Stirs ({ world.setQueue queue added.2 with
        agenda := added.1.elim world.agenda fun due =>
          world.agenda.schedule due (.delayedAdd queue key) }.queue name) := by
    rw [queue_withAgenda]
    exact stirs_setQueue stirs name
  exact retried _ (WorkQueue.stirs_addLater _ _ key)

theorem stirs_answer (request : Request) (world : World) (name : QueueName) :
    (world.queue name).Stirs ((answer request world).2.queue name) := by
  cases request with
  | enqueue queue key => exact stirs_setQueue (WorkQueue.stirs_add _ key) name
  | retry queue key => exact stirs_retry world queue key name
  | forget queue key => exact stirs_setQueue (WorkQueue.stirs_forget _ key) name
  | _ => cases name <;> exact .refl _

theorem stirs_fire (world : World) (due : Nat) (alarm : Alarm) (name : QueueName) :
    (world.queue name).Stirs ((world.fire due alarm).queue name) := by
  cases alarm with
  | delayedAdd queue key => exact stirs_setQueue (WorkQueue.stirs_fire _ key due) name
  | _ => exact .refl _

end World

/-- Closes both queues. -/
def World.close (world : World) : World :=
  { world with
    attachmentQueue := world.attachmentQueue.close
    volumeQueue := world.volumeQueue.close }

namespace ControllerRun

/-- The run with an actor at the head of its line. -/
def withHead (run : ControllerRun) (actor : Actor) (others : List Actor) : ControllerRun :=
  { run with line := actor :: others }

/-- Answers one request; the changes that it makes are told to the intake if it is watching. -/
def respond (run : ControllerRun) (request : Request) : request.Answer × ControllerRun :=
  let (answer, world) := World.answer request run.world
  let run := run.update fun _ => { world with events := [] }
  (answer, if run.watching then run.tell world.events else run)

/-- The run with one of its queues changed. -/
abbrev withQueue (run : ControllerRun) (name : QueueName) (queue : WorkQueue) : ControllerRun :=
  run.update (·.setQueue name queue)

/-- A worker asks for a key. -/
def ask (run : ControllerRun) (queue : QueueName) (number : Nat) :
    Option Handout × ControllerRun :=
  let (handout, remaining) := (run.world.queue queue).retake number
  (handout, run.withQueue queue remaining)

/-- A worker is done with a key. -/
def finish (run : ControllerRun) (task : Task) (result : Except Failure Unit) : ControllerRun :=
  let sample := Sample.ofReconcile task.queue.text result.isOk
  { run with metrics := run.metrics.increment sample }.update fun world =>
    world.setQueue task.queue ((world.queue task.queue).finish task.key)

/-- Work on a key is a sync, after which the worker is done with it. -/
theorem work_eq (run : ControllerRun) (task : Task) :
    run.work task =
      (run.perform (run.controller.sync task)).2.finish task
        (run.perform (run.controller.sync task)).1 := rfl

end ControllerRun

/-- A run whose syncs and sweeps are under way. -/
structure Shift where
  run : ControllerRun
  jobs : List Job := []
  /-- What is left of the sweeps over all attachments. -/
  sweeps : List (Requests (Except Failure Unit)) := []

namespace Shift

/-- A worker that has asked for a key waits, goes, or begins to work. -/
def asked (shift : Shift) (queue : QueueName) (number : Nat) :
    Option Handout × ControllerRun → Shift
  | (none, run) => { shift with run := run.rest }
  | (some .ended, run) => { shift with run := run.rest.leave }
  | (some (.key key), run) =>
      { shift with
        run
        jobs := ⟨number, ⟨queue, key⟩, (run.controller.sync ⟨queue, key⟩).run⟩ :: shift.jobs }

/-- What those do that belong to a run. -/
inductive Acts : Shift → Shift → Prop
  | intake (before after : List Actor) {run : ControllerRun} {jobs : List Job}
      {sweeps : List (Requests (Except Failure Unit))}
      (inLine : run.line = before ++ .intake :: after) :
      Acts ⟨run, jobs, sweeps⟩ ⟨(run.withHead .intake (before ++ after)).actIntake, jobs, sweeps⟩
  | worker (before after : List Actor) {shift : Shift} {queue : QueueName} {number : Nat}
      (inLine : shift.run.line = before ++ .worker queue number :: after)
      (idle : ∀ job ∈ shift.jobs, job.task.queue = queue → job.worker ≠ number) :
      Acts shift (shift.asked queue number
        ((shift.run.withHead (.worker queue number) (before ++ after)).ask queue number))
  | sync (before after : List Job) {run : ControllerRun}
      {sweeps : List (Requests (Except Failure Unit))} {worker : Nat} {task : Task}
      {request : Request} {next : request.Answer → Requests (Except Failure Unit)} :
      Acts ⟨run, before ++ ⟨worker, task, .ask request next⟩ :: after, sweeps⟩
        ⟨(run.respond request).2, before ++ ⟨worker, task, next (run.respond request).1⟩ :: after,
          sweeps⟩
  | finish (before after : List Job) {run : ControllerRun}
      {sweeps : List (Requests (Except Failure Unit))} {worker : Nat} {task : Task}
      {result : Except Failure Unit} :
      Acts ⟨run, before ++ ⟨worker, task, .done result⟩ :: after, sweeps⟩
        ⟨run.finish task result, before ++ after, sweeps⟩
  | sweep (before after : List (Requests (Except Failure Unit))) {run : ControllerRun}
      {jobs : List Job} {request : Request}
      {next : request.Answer → Requests (Except Failure Unit)} :
      Acts ⟨run, jobs, before ++ .ask request next :: after⟩
        ⟨(run.respond request).2, jobs, before ++ next (run.respond request).1 :: after⟩
  | finishSweep (before after : List (Requests (Except Failure Unit))) {run : ControllerRun}
      {jobs : List Job} {result : Except Failure Unit} :
      Acts ⟨run, jobs, before ++ .done result :: after⟩ ⟨run, jobs, before ++ after⟩

/-- What happens to a run: changes are told, streams of changes are closed, timers fire, the rest of
the world goes on, and the run is cancelled. -/
inductive Meets (shift : Shift) : Shift → Prop
  | told (changes : List Event) : Meets shift { shift with run := shift.run.tell changes }
  | closedStream (stream : QueueName) :
      Meets shift { shift with run := shift.run.closeStream stream }
  | cancelled : Meets shift { shift with run := shift.run.cancel }
  | fired (due : Nat) (alarm : Alarm) :
      Meets shift { shift with run := shift.run.update (·.fire due alarm) }
  | resynced : Meets shift { shift with run := shift.run.resync }
  | swept (running : shift.run.isRunning = true) :
      Meets shift
        { shift with sweeps := shift.run.controller.handler.reconcileAll.run :: shift.sweeps }
  | changed (world : World) (same : ∀ name, world.queue name = shift.run.world.queue name) :
      Meets shift { shift with run := { shift.run with world } }

inductive Step (shift later : Shift) : Prop
  | acts (acts : shift.Acts later)
  | meets (meets : shift.Meets later)

abbrev Reaches : Shift → Shift → Prop :=
  Relation.ReflTransGen Step

end Shift

namespace ControllerRun

variable {run : ControllerRun} {absent : List Actor} {queue : QueueName} {number : Nat}

/-- The signal at which the workers of a queue wait. -/
def signal (run : ControllerRun) (queue : QueueName) : Signal :=
  (run.world.queue queue).signal

theorem mem_join {actor : Actor} {actors : List Actor} :
    actor ∈ (run.join actors).line ↔ actor ∈ run.line ∨ actor ∈ actors := by
  by_cases within : actor ∈ run.line
  · simp [join, within]
  · simp [join, within]

theorem nodup_join {actors : List Actor} (nodup : run.line.Nodup) (joining : actors.Nodup) :
    (run.join actors).line.Nodup := by
  refine nodup.append (joining.filter _) ?_
  intro actor inLine joins
  simp [inLine] at joins

theorem mem_woken {actor : Actor} :
    actor ∈ run.woken queue ↔
      ∃ number ∈ (run.signal queue).awake, actor = .worker queue number := by
  simp [woken, Signal.awake, signal, eq_comm]

theorem nodup_woken (nodup : (run.signal queue).known.Nodup) : (run.woken queue).Nodup := by
  have awake : (run.signal queue).awake.Nodup := (List.nodup_append.mp nodup).2.1
  have same : run.woken queue = (run.signal queue).awake.map (Actor.worker queue) := by
    simp [woken, Signal.awake, signal]
  rw [same]
  exact awake.map fun _ _ same => (Actor.worker.inj same).2

theorem mem_joinWoken {actor : Actor} :
    actor ∈ run.joinWoken.line ↔ actor ∈ run.line ∨
      ∃ queue, ∃ number ∈ (run.signal queue).awake, actor = .worker queue number := by
  unfold joinWoken
  rw [mem_join, mem_join, mem_woken, mem_woken, or_assoc]
  refine or_congr_right ?_
  constructor
  · rintro (woken | woken)
    · exact ⟨_, woken⟩
    · exact ⟨_, woken⟩
  · rintro ⟨queue, woken⟩
    cases queue with
    | attachments => exact .inl woken
    | volumes => exact .inr woken

theorem nodup_joinWoken (nodup : run.line.Nodup)
    (knownNodup : ∀ queue, (run.signal queue).known.Nodup) : run.joinWoken.line.Nodup := by
  have first := nodup_join nodup (nodup_woken (knownNodup .attachments))
  exact nodup_join first (nodup_woken (knownNodup .volumes))

/-- Whether a worker has one place, among those that have gone, in the line or at its queue, and is
in the line if it was woken. -/
structure Placed (absent : List Actor) (run : ControllerRun) (queue : QueueName) (number : Nat) :
    Prop where
  somewhere : number < run.workers → .worker queue number ∈ absent ∨
    .worker queue number ∈ run.line ∨ number ∈ (run.signal queue).waiting
  inLine : .worker queue number ∈ run.line → number < run.workers ∧
    .worker queue number ∉ absent ∧ number ∉ (run.signal queue).waiting
  waiting : number ∈ (run.signal queue).waiting →
    number < run.workers ∧ .worker queue number ∉ absent
  awake : number ∈ (run.signal queue).awake → .worker queue number ∈ run.line

structure Seated (absent : List Actor) (run : ControllerRun) : Prop where
  lineNodup : run.line.Nodup
  knownNodup : ∀ queue, (run.signal queue).known.Nodup
  placed : ∀ queue number, Placed absent run queue number
  absentNodup : absent.Nodup
  absentCrew : absent ⊆ crew run.workers
  gone : run.gone = absent.length

/-- How far a run has come. A run that is stopped has ended when all have gone. -/
inductive Phase (run : ControllerRun) : Prop
  | running (stage : run.stage = .running)
      (isOpen : ∀ queue, (run.world.queue queue).closed = false)
      (noticed : run.cancelled = true → .intake ∈ run.line)
  | stopped (cancelled : run.cancelled = true)
      (closed : ∀ queue, (run.world.queue queue).closed = true)
      (nobody : ∀ queue, (run.signal queue).waiting = [])
      (away : .intake ∉ run.line)
      (stage : run.stage = if run.allGone then .ended (.ok ()) else .stopping)

theorem mem_crew {workers : Nat} : .worker queue number ∈ crew workers ↔ number < workers := by
  cases queue <;> simp [crew]

theorem length_crew (workers : Nat) : (crew workers).length = 2 * workers := by
  simp [crew, List.length_flatMap, Nat.mul_comm]

theorem nodup_crew (workers : Nat) : (crew workers).Nodup := by
  refine List.nodup_flatMap.mpr ⟨by simp, ?_⟩
  refine List.Nodup.pairwise_of_forall_ne List.nodup_range ?_
  intro number _ other _ different
  simp [Ne.symm different]

/-- A worker whose task has at most been woken keeps to its place, or comes from its queue to the
line. -/
theorem Placed.stirred {later : ControllerRun} {absentLater : List Actor}
    (placed : Placed absent run queue number) (workers : later.workers = run.workers)
    (sameAbsent : .worker queue number ∈ absentLater ↔ .worker queue number ∈ absent)
    (knownNodup : (later.signal queue).known.Nodup)
    (known : number ∈ (later.signal queue).known ↔ number ∈ (run.signal queue).known)
    (waiting : number ∈ (later.signal queue).waiting → number ∈ (run.signal queue).waiting)
    (inLine : .worker queue number ∈ later.line ↔
      .worker queue number ∈ run.line ∨ number ∈ (later.signal queue).awake) :
    Placed absentLater later queue number := by
  have apart : number ∈ (later.signal queue).waiting → number ∉ (later.signal queue).awake :=
    fun waits wakes => (List.nodup_append.mp knownNodup).2.2 number waits number wakes rfl
  rw [Signal.mem_known, Signal.mem_known] at known
  rcases placed with ⟨somewhere, wasInLine, wasWaiting, wasAwake⟩
  constructor
  · rw [workers, sameAbsent]
    grind
  · rw [workers, sameAbsent]
    grind
  · rw [workers, sameAbsent]
    grind
  · grind

section

variable {change : World → World}

theorem mem_update {actor : Actor} : actor ∈ (run.update change).line ↔ actor ∈ run.line ∨
    ∃ queue, ∃ number ∈ ((run.update change).signal queue).awake,
      actor = .worker queue number :=
  mem_joinWoken

theorem worker_mem_update : .worker queue number ∈ (run.update change).line ↔
    .worker queue number ∈ run.line ∨ number ∈ ((run.update change).signal queue).awake := by
  rw [mem_update]
  refine or_congr_right ?_
  constructor
  · rintro ⟨_, _, awake, ⟨⟩⟩
    exact awake
  · exact fun awake => ⟨queue, number, awake, rfl⟩

theorem intake_mem_update : .intake ∈ (run.update change).line ↔ .intake ∈ run.line := by
  rw [mem_update]
  simp

theorem Seated.update (seated : Seated absent run)
    (stirs : ∀ queue, (run.signal queue).Stirs ((run.update change).signal queue)) :
    Seated absent (run.update change) := by
  have knownNodup : ∀ queue, ((run.update change).signal queue).known.Nodup :=
    fun queue => (stirs queue).known.nodup_iff.mpr (seated.knownNodup queue)
  refine ⟨?_, knownNodup, ?_, seated.absentNodup, seated.absentCrew, seated.gone⟩
  · show ({ run with world := change run.world } : ControllerRun).joinWoken.line.Nodup
    exact nodup_joinWoken seated.lineNodup knownNodup
  · intro queue number
    exact (seated.placed queue number).stirred rfl Iff.rfl (knownNodup queue)
      (stirs queue).known.mem_iff (fun waits => (stirs queue).waiting waits) worker_mem_update

theorem Phase.update (phase : Phase run)
    (stirs : ∀ queue, (run.signal queue).Stirs ((run.update change).signal queue))
    (closed : ∀ queue, ((run.update change).world.queue queue).closed =
      (run.world.queue queue).closed) : Phase (run.update change) := by
  cases phase with
  | running stage isOpen noticed =>
      refine .running stage (fun queue => (closed queue).trans (isOpen queue)) ?_
      exact fun cancelled => intake_mem_update.mpr (noticed cancelled)
  | stopped cancelled wasClosed nobody away stage =>
      refine .stopped cancelled (fun queue => (closed queue).trans (wasClosed queue)) ?_
        (fun inLine => away (intake_mem_update.mp inLine)) stage
      exact fun queue => List.eq_nil_of_subset_nil (nobody queue ▸ (stirs queue).waiting)

end

/-- Two runs with everybody in the same place. -/
structure SamePlaces (run later : ControllerRun) : Prop where
  line : later.line = run.line
  queue : ∀ name, later.world.queue name = run.world.queue name
  workers : later.workers = run.workers
  gone : later.gone = run.gone

/-- Two runs that are as far as each other, besides. -/
structure SameCourse (run later : ControllerRun) : Prop extends SamePlaces run later where
  stage : later.stage = run.stage
  cancelled : later.cancelled = run.cancelled

variable {later : ControllerRun}

theorem SamePlaces.signal (same : SamePlaces run later) (queue : QueueName) :
    later.signal queue = run.signal queue :=
  congrArg WorkQueue.signal (same.queue queue)

theorem SamePlaces.stirs (same : SamePlaces run later) (name : QueueName) :
    (run.world.queue name).Stirs (later.world.queue name) :=
  same.queue name ▸ .refl _

theorem SamePlaces.allGone (same : SamePlaces run later) : later.allGone = run.allGone := by
  rw [ControllerRun.allGone, ControllerRun.allGone, same.gone, same.workers]

theorem Seated.of_same (seated : Seated absent run) (same : SamePlaces run later) :
    Seated absent later := by
  refine ⟨same.line ▸ seated.lineNodup, ?_, ?_, seated.absentNodup,
    same.workers ▸ seated.absentCrew, same.gone.trans seated.gone⟩
  · exact fun queue => same.signal queue ▸ seated.knownNodup queue
  · intro queue number
    have placed := seated.placed queue number
    constructor
    · rw [same.line, same.signal, same.workers]
      exact placed.somewhere
    · rw [same.line, same.signal, same.workers]
      exact placed.inLine
    · rw [same.signal, same.workers]
      exact placed.waiting
    · rw [same.line, same.signal]
      exact placed.awake

theorem Phase.of_same (phase : Phase run) (same : SameCourse run later) : Phase later := by
  cases phase with
  | running stage isOpen noticed =>
      refine .running (same.stage.trans stage) (fun queue => same.queue queue ▸ isOpen queue) ?_
      rw [same.cancelled, same.line]
      exact noticed
  | stopped cancelled closed nobody away stage =>
      refine .stopped (same.cancelled.trans cancelled)
        (fun queue => same.queue queue ▸ closed queue)
        (fun queue => same.signal queue ▸ nobody queue) (same.line ▸ away) ?_
      rw [same.stage, same.allGone]
      exact stage

theorem Seated.join_intake (seated : Seated absent run) : Seated absent (run.join [.intake]) := by
  refine ⟨nodup_join seated.lineNodup (List.nodup_singleton _), seated.knownNodup, ?_,
    seated.absentNodup, seated.absentCrew, seated.gone⟩
  intro queue number
  have placed := seated.placed queue number
  have sameWorkers : .worker queue number ∈ (run.join [.intake]).line ↔
      .worker queue number ∈ run.line := by
    rw [mem_join]
    simp
  exact ⟨fun inCrew => by rw [sameWorkers]; exact placed.somewhere inCrew,
    fun inLine => placed.inLine (sameWorkers.mp inLine), placed.waiting,
    fun awake => sameWorkers.mpr (placed.awake awake)⟩

theorem isRunning_iff : run.isRunning = true ↔ run.stage = .running := by
  unfold isRunning
  cases run.stage <;> simp

theorem Phase.join_intake (phase : Phase run) (running : run.isRunning = true) :
    Phase (run.join [.intake]) := by
  cases phase with
  | running stage isOpen noticed =>
      exact .running stage isOpen fun _ => mem_join.mpr (.inr List.mem_cons_self)
  | stopped cancelled closed nobody away stage =>
      rw [isRunning_iff.mp running] at stage
      split at stage <;> contradiction

/-- Whether a run has gone on with its queues stirred at most: everybody keeps a place, nobody
leaves the line, and it has come as far as before. -/
structure Keeps (run later : ControllerRun) : Prop where
  queue : ∀ name, (run.world.queue name).Stirs (later.world.queue name)
  workers : later.workers = run.workers
  gone : later.gone = run.gone
  seated : ∀ {absent}, Seated absent run → Seated absent later
  phase : Phase run → Phase later
  line : run.line ⊆ later.line

theorem Keeps.refl (run : ControllerRun) : Keeps run run :=
  ⟨fun _ => .refl _, rfl, rfl, id, id, List.Subset.refl _⟩

theorem Keeps.trans {last : ControllerRun} (first : Keeps run later) (second : Keeps later last) :
    Keeps run last :=
  ⟨fun name => (first.queue name).trans (second.queue name), second.workers.trans first.workers,
    second.gone.trans first.gone, second.seated ∘ first.seated, second.phase ∘ first.phase,
    List.Subset.trans first.line second.line⟩

theorem SameCourse.keeps (same : SameCourse run later) : Keeps run later :=
  ⟨same.toSamePlaces.stirs, same.workers, same.gone,
    fun seated => seated.of_same same.toSamePlaces, fun phase => phase.of_same same,
    same.line ▸ List.Subset.refl _⟩

theorem keeps_update {change : World → World}
    (stirs : ∀ name, (run.world.queue name).Stirs ((change run.world).queue name)) :
    Keeps run (run.update change) where
  queue := stirs
  workers := rfl
  gone := rfl
  seated seated := seated.update fun name => (stirs name).signal
  phase phase := phase.update (fun name => (stirs name).signal) fun name => (stirs name).closed
  line _ inLine := mem_update.mpr (.inl inLine)

theorem keeps_wakeIntake (run : ControllerRun) : Keeps run run.wakeIntake := by
  unfold wakeIntake
  split
  next running =>
      exact ⟨fun _ => .refl _, rfl, rfl, Seated.join_intake,
        fun phase => phase.join_intake running, fun _ inLine => mem_join.mpr (.inl inLine)⟩
  next => exact .refl run

theorem keeps_tell (run : ControllerRun) (changes : List Event) :
    Keeps run (run.tell changes) := by
  unfold tell
  dsimp only
  split
  · exact .refl run
  · have same (changes : List Event) : SameCourse run { run with changes } :=
      ⟨⟨rfl, fun _ => rfl, rfl, rfl⟩, rfl, rfl⟩
    exact (same _).keeps.trans (keeps_wakeIntake _)

theorem keeps_closeStream (run : ControllerRun) (stream : QueueName) :
    Keeps run (run.closeStream stream) := by
  have same : SameCourse run { run with closedStreams := stream :: run.closedStreams } :=
    ⟨⟨rfl, fun _ => rfl, rfl, rfl⟩, rfl, rfl⟩
  exact same.keeps.trans (keeps_wakeIntake _)

theorem keeps_addTasks (run : ControllerRun) (tasks : List Task) :
    Keeps run (run.addTasks tasks) := by
  induction tasks generalizing run with
  | nil => exact .refl run
  | cons task tasks ih =>
      have added : Keeps run (run.update (·.enqueue task.queue task.key)) :=
        keeps_update fun name => World.stirs_setQueue (WorkQueue.stirs_add _ _) name
      exact added.trans (ih _)

theorem keeps_respond (run : ControllerRun) (request : Request) :
    Keeps run (run.respond request).2 := by
  have answered : Keeps run (run.update fun _ =>
      { (World.answer request run.world).2 with events := [] }) := by
    refine keeps_update fun name => ?_
    have stirs := World.stirs_answer request run.world name
    cases name <;> exact stirs
  unfold respond
  dsimp only
  split
  · exact answered.trans (keeps_tell _ _)
  · exact answered

theorem keeps_finish (run : ControllerRun) (task : Task) (result : Except Failure Unit) :
    Keeps run (run.finish task result) := by
  have counted : Keeps run
      { run with metrics := run.metrics.increment (.ofReconcile task.queue.text result.isOk) } :=
    SameCourse.keeps ⟨⟨rfl, fun _ => rfl, rfl, rfl⟩, rfl, rfl⟩
  unfold finish
  refine counted.trans (keeps_update fun name => ?_)
  exact World.stirs_setQueue (WorkQueue.stirs_finish _ _) name

theorem Phase.isOpen (phase : Phase run) (stage : run.stage = .running) (queue : QueueName) :
    (run.world.queue queue).closed = false := by
  cases phase with
  | running _ isOpen => exact isOpen queue
  | stopped _ _ _ _ isStopped =>
      rw [stage] at isStopped
      split at isStopped <;> contradiction

theorem Phase.not_starting (phase : Phase run) : run.stage ≠ .starting := by
  cases phase with
  | running stage => simp [stage]
  | stopped _ _ _ _ stage =>
      rw [stage]
      split <;> simp

theorem Phase.of_cancelled (phase : Phase run) (stage : run.stage ≠ .running) :
    Phase { run with cancelled := true } := by
  cases phase with
  | running isRunning => contradiction
  | stopped _ closed nobody away isStopped => exact .stopped rfl closed nobody away isStopped

theorem keeps_cancel (run : ControllerRun) : Keeps run run.cancel := by
  have same (stage : RunStage) : SamePlaces run { run with cancelled := true, stage } :=
    ⟨rfl, fun _ => rfl, rfl, rfl⟩
  unfold cancel
  dsimp only
  split
  next starting =>
      exact ⟨(same _).stirs, rfl, rfl, fun seated => seated.of_same (same _),
        fun phase => absurd starting phase.not_starting, List.Subset.refl _⟩
  next running =>
      refine ⟨(same .running).stirs, rfl, rfl,
        fun seated => (seated.of_same (same _)).join_intake, fun phase => ?_,
        fun _ inLine => mem_join.mpr (.inl inLine)⟩
      exact .running running (phase.isOpen running) fun _ => mem_join.mpr (.inr List.mem_cons_self)
  next stopping =>
      exact ⟨(same _).stirs, rfl, rfl, fun seated => seated.of_same (same _),
        fun phase => phase.of_cancelled (by simp [stopping]), List.Subset.refl _⟩
  next result ended =>
      exact ⟨(same _).stirs, rfl, rfl, fun seated => seated.of_same (same _),
        fun phase => phase.of_cancelled (by simp [ended]), List.Subset.refl _⟩

theorem close_eq (run : ControllerRun) :
    run.close =
      { run with stage := if run.allGone then .ended (.ok ()) else .stopping }.update
        World.close := rfl

theorem mem_rest {actor other : Actor} {others : List Actor} (nodup : run.line.Nodup)
    (head : run.line = actor :: others) :
    other ∈ run.rest.line ↔ other ∈ run.line ∧ other ≠ actor := by
  have isRest : run.rest.line = others := by
    rw [rest, head]
    rfl
  rw [head, List.nodup_cons] at nodup
  rw [isRest, head, List.mem_cons]
  constructor
  · intro within
    refine ⟨.inr within, ?_⟩
    rintro rfl
    exact nodup.1 within
  · rintro ⟨within, isOther⟩
    exact within.resolve_left isOther

theorem Seated.rest_intake {others : List Actor} (seated : Seated absent run)
    (head : run.line = .intake :: others) : Seated absent run.rest := by
  have sameWorkers (queue : QueueName) (number : Nat) :
      .worker queue number ∈ run.rest.line ↔ .worker queue number ∈ run.line := by
    rw [mem_rest seated.lineNodup head]
    simp
  refine ⟨seated.lineNodup.sublist (List.drop_sublist 1 _), seated.knownNodup, ?_,
    seated.absentNodup, seated.absentCrew, seated.gone⟩
  intro queue number
  have placed := seated.placed queue number
  exact ⟨fun inCrew => by rw [sameWorkers]; exact placed.somewhere inCrew,
    fun inLine => placed.inLine ((sameWorkers _ _).mp inLine), placed.waiting,
    fun awake => (sameWorkers _ _).mpr (placed.awake awake)⟩

theorem Seated.close (seated : Seated absent run) : Seated absent run.close := by
  have staged : Seated absent
      { run with stage := if run.allGone then .ended (.ok ()) else .stopping } :=
    seated.of_same ⟨rfl, fun _ => rfl, rfl, rfl⟩
  rw [close_eq]
  refine staged.update ?_
  intro queue
  cases queue <;> exact Signal.stirs_wakeAll _

theorem Phase.close (cancelled : run.cancelled = true) (away : .intake ∉ run.line) :
    Phase run.close := by
  rw [close_eq]
  refine .stopped cancelled ?_ ?_ (fun inLine => away (intake_mem_update.mp inLine)) rfl
  · intro queue
    cases queue <;> rfl
  · intro queue
    cases queue <;> rfl

/-- The intake, at the head of the line, acts. -/
theorem actIntake_keeps {others : List Actor} (seated : Seated absent run) (phase : Phase run)
    (head : run.line = .intake :: others) :
    Seated absent run.actIntake ∧ Phase run.actIntake ∧
      ∀ queue number, .worker queue number ∈ run.line →
        .worker queue number ∈ run.actIntake.line := by
  have workersStay (queue : QueueName) (number : Nat)
      (inLine : .worker queue number ∈ run.line) : .worker queue number ∈ run.rest.line :=
    (mem_rest seated.lineNodup head).mpr ⟨inLine, by simp⟩
  have away : .intake ∉ run.rest.line := fun inLine =>
    ((mem_rest seated.lineNodup head).mp inLine).2 rfl
  rw [actIntake_eq]
  split
  next cancelled =>
      exact ⟨(seated.rest_intake head).close, .close cancelled away,
        fun queue number inLine => mem_update.mpr (.inl (workersStay queue number inLine))⟩
  next goesOn =>
      cases phase with
      | stopped cancelled => contradiction
      | running stage isOpen noticed =>
          split
          next =>
              exact ⟨seated.rest_intake head, .running stage isOpen fun cancelled =>
                absurd cancelled goesOn, workersStay⟩
          next change _ _ =>
              have same : SameCourse run { run with changes := run.changes.tail } :=
                ⟨⟨rfl, fun _ => rfl, rfl, rfl⟩, rfl, rfl⟩
              have keeps (tasks : List Task) := same.keeps.trans (keeps_addTasks _ tasks)
              exact ⟨(keeps _).seated seated, (keeps _).phase (.running stage isOpen noticed),
                fun queue number inLine => (keeps _).line inLine⟩

theorem prefix_update {change : World → World} : run.line <+: (run.update change).line :=
  ⟨_, (List.append_assoc _ _ _).symm⟩

theorem leave_eq (run : ControllerRun) :
    run.leave =
      { run with
        gone := run.gone + 1
        stage := if run.gone + 1 = 2 * run.workers then .ended (.ok ()) else run.stage } := by
  unfold leave allGone
  dsimp only
  by_cases last : run.gone + 1 = 2 * run.workers
  · simp [last]
  · simp [last]

/-- The queues after a worker has asked for a key. -/
theorem queue_withQueue {remaining : WorkQueue} (name : QueueName) :
    (run.withQueue queue remaining).world.queue name =
      if name = queue then remaining else run.world.queue name :=
  World.queue_setQueue _ _ _ _

section

variable {handout : Option Handout} {remaining : WorkQueue}
  (asked : WorkQueue.Asked number (run.world.queue queue) handout remaining)

include asked

theorem not_mem_of_asked (found : handout ≠ none) :
    number ∉ ((run.withQueue queue remaining).signal queue).known := by
  rw [signal, queue_withQueue, if_pos rfl]
  exact asked.not_mem_known found

theorem closed_of_asked (name : QueueName) :
    ((run.withQueue queue remaining).world.queue name).closed =
      (run.world.queue name).closed := by
  rw [queue_withQueue]
  split
  next same => rw [asked.closed_eq, same]
  next => rfl

theorem nobody_of_asked (found : handout ≠ none) (nobody : ∀ name, (run.signal name).waiting = [])
    (name : QueueName) : ((run.withQueue queue remaining).signal name).waiting = [] := by
  rw [signal, queue_withQueue]
  split
  next =>
      apply List.eq_nil_iff_forall_not_mem.mpr
      intro task waits
      by_cases isSelf : task = number
      · exact asked.not_mem_known found (Signal.mem_known.mpr (.inl (isSelf ▸ waits)))
      · have waited := asked.mem_waiting isSelf waits
        rw [← signal, nobody] at waited
        contradiction
  next => exact nobody name

theorem Phase.takes (phase : Phase run) (found : handout ≠ none) :
    Phase (run.withQueue queue remaining) := by
  have closedIs := closed_of_asked asked
  cases phase with
  | running stage isOpen noticed =>
      exact .running stage (fun name => (closedIs name).trans (isOpen name))
        fun cancelled => mem_update.mpr (.inl (noticed cancelled))
  | stopped cancelled closed nobody away stage =>
      exact .stopped cancelled (fun name => (closedIs name).trans (closed name))
        (nobody_of_asked asked found nobody)
        (fun inLine => away (intake_mem_update.mp inLine)) stage

end

section

variable {others : List Actor} {handout : Option Handout} {remaining : WorkQueue}
  {absentLater : List Actor} (seated : Seated absent run)
  (asked : WorkQueue.Asked number (run.world.queue queue) handout remaining)

include seated asked

theorem knownNodup_of_asked (name : QueueName) :
    ((run.withQueue queue remaining).signal name).known.Nodup := by
  rw [signal, queue_withQueue]
  split
  next same => exact asked.known_nodup (seated.knownNodup queue)
  next => exact seated.knownNodup name

/-- All but the worker that has asked keep their places, or come to the line. -/
theorem placed_of_asked (later : ControllerRun)
    (world : later.world = (run.withQueue queue remaining).world)
    (workers : later.workers = run.workers) {name : QueueName} {other : Nat}
    (isOther : Actor.worker name other ≠ .worker queue number)
    (inLine : .worker name other ∈ later.line ↔
      .worker name other ∈ (run.withQueue queue remaining).line)
    (sameAbsent : .worker name other ∈ absentLater ↔ .worker name other ∈ absent) :
    Placed absentLater later name other := by
  have signalIs : later.signal name = ((run.withQueue queue remaining).signal name) := by
    rw [signal, signal, world]
  have here : (run.withQueue queue remaining).signal name =
      if name = queue then remaining.signal else run.signal name := by
    rw [signal, queue_withQueue]
    split <;> rfl
  refine (seated.placed name other).stirred workers sameAbsent ?_ ?_ ?_ ?_
  · rw [signalIs]
    exact knownNodup_of_asked seated asked name
  · rw [signalIs, here]
    split
    next same =>
        subst same
        exact asked.mem_known fun isNumber => isOther (isNumber ▸ rfl)
    next => rfl
  · rw [signalIs, here]
    split
    next same =>
        subst same
        exact asked.mem_waiting fun isNumber => isOther (isNumber ▸ rfl)
    next => exact id
  · rw [inLine, worker_mem_update, signalIs]

theorem lineNodup_of_asked : (run.withQueue queue remaining).line.Nodup := by
  show ({ run with world := run.world.setQueue queue remaining } :
    ControllerRun).joinWoken.line.Nodup
  exact nodup_joinWoken seated.lineNodup (knownNodup_of_asked seated asked)

variable {others : List Actor} (head : run.line = .worker queue number :: others)

include head

theorem mem_rest_of_asked (actor : Actor) :
    actor ∈ (run.withQueue queue remaining).rest.line ↔
      actor ∈ (run.withQueue queue remaining).line ∧ actor ≠ .worker queue number := by
  have grows : run.line <+: (run.withQueue queue remaining).line := prefix_update
  rcases grows with ⟨joined, same⟩
  rw [head, List.cons_append] at same
  exact mem_rest (lineNodup_of_asked seated asked) same.symm

/-- A worker that has got nothing goes from the line to its queue. -/
theorem Seated.waits (nothing : handout = none) :
    Seated absent (run.withQueue queue remaining).rest := by
  have inLine := mem_rest_of_asked seated asked head
  have wasInLine := (seated.placed queue number).inLine (head ▸ List.mem_cons_self)
  have waits : number ∈
      ((run.withQueue queue remaining).rest.signal queue).waiting := by
    rw [signal, rest, queue_withQueue, if_pos rfl]
    exact asked.mem_waiting_self nothing
  have knownNodup := knownNodup_of_asked seated asked
  refine ⟨(lineNodup_of_asked seated asked).sublist (List.drop_sublist 1 _), knownNodup, ?_,
    seated.absentNodup, seated.absentCrew, seated.gone⟩
  intro name other
  by_cases isSelf : Actor.worker name other = .worker queue number
  · cases isSelf
    refine ⟨fun _ => .inr (.inr waits), fun within => absurd rfl ((inLine _).mp within).2,
      fun _ => ⟨wasInLine.1, wasInLine.2.1⟩, ?_⟩
    intro awake
    exact absurd rfl ((List.nodup_append.mp (knownNodup queue)).2.2 number waits number awake)
  · refine placed_of_asked seated asked (run.withQueue queue remaining).rest rfl rfl
      isSelf ?_ Iff.rfl
    exact (inLine _).trans (and_iff_left isSelf)

/-- A worker that has got a key stays in the line. -/
theorem Seated.takes (found : handout ≠ none) :
    Seated absent (run.withQueue queue remaining) := by
  have unknown := not_mem_of_asked asked found
  rw [Signal.mem_known, not_or] at unknown
  have within : .worker queue number ∈ run.line := head ▸ List.mem_cons_self
  have wasInLine := (seated.placed queue number).inLine within
  refine ⟨lineNodup_of_asked seated asked, knownNodup_of_asked seated asked, ?_,
    seated.absentNodup, seated.absentCrew, seated.gone⟩
  intro name other
  by_cases isSelf : Actor.worker name other = .worker queue number
  · cases isSelf
    have inLine : .worker queue number ∈ (run.withQueue queue remaining).line :=
      mem_update.mpr (.inl within)
    exact ⟨fun _ => .inr (.inl inLine), fun _ => ⟨wasInLine.1, wasInLine.2.1, unknown.1⟩,
      fun waits => absurd waits unknown.1, fun _ => inLine⟩
  · exact placed_of_asked seated asked _ rfl rfl isSelf Iff.rfl Iff.rfl

/-- A worker that is told that the queue has ended goes. -/
theorem Seated.leaves (found : handout ≠ none) :
    Seated (.worker queue number :: absent) (run.withQueue queue remaining).rest.leave := by
  have inLine := mem_rest_of_asked seated asked head
  have wasInLine := (seated.placed queue number).inLine (head ▸ List.mem_cons_self)
  have unknown := not_mem_of_asked asked found
  rw [Signal.mem_known, not_or] at unknown
  rw [leave_eq]
  refine ⟨(lineNodup_of_asked seated asked).sublist (List.drop_sublist 1 _),
    knownNodup_of_asked seated asked, ?_, List.nodup_cons.mpr ⟨wasInLine.2.1, seated.absentNodup⟩,
    List.cons_subset.mpr ⟨mem_crew.mpr wasInLine.1, seated.absentCrew⟩,
    congrArg (· + 1) seated.gone⟩
  intro name other
  by_cases isSelf : Actor.worker name other = .worker queue number
  · cases isSelf
    exact ⟨fun _ => .inl List.mem_cons_self, fun within => absurd rfl ((inLine _).mp within).2,
      fun waits => absurd waits unknown.1, fun awake => absurd awake unknown.2⟩
  · refine placed_of_asked seated asked
      { (run.withQueue queue remaining).rest with gone := _, stage := _ } rfl rfl isSelf ?_ ?_
    · exact (inLine _).trans (and_iff_left isSelf)
    · rw [List.mem_cons]
      exact or_iff_right isSelf

theorem Phase.waits (phase : Phase run)
    (isOpen : (run.world.queue queue).closed = false) :
    Phase (run.withQueue queue remaining).rest := by
  cases phase with
  | stopped _ closed => simp [closed queue] at isOpen
  | running stage areOpen noticed =>
      refine .running stage (fun name => (closed_of_asked asked name).trans (areOpen name)) ?_
      intro cancelled
      refine (mem_rest_of_asked seated asked head _).mpr ⟨?_, by simp⟩
      exact mem_update.mpr (.inl (noticed cancelled))

end

/-- As long as a worker is in the line not all have gone. -/
theorem Seated.gone_lt (seated : Seated absent run)
    (inLine : .worker queue number ∈ run.line) : run.gone < 2 * run.workers := by
  have placed := (seated.placed queue number).inLine inLine
  have nodup := List.nodup_cons.mpr ⟨placed.2.1, seated.absentNodup⟩
  have within : .worker queue number :: absent ⊆ crew run.workers :=
    List.cons_subset.mpr ⟨mem_crew.mpr placed.1, seated.absentCrew⟩
  have shorter := (List.subperm_of_subset nodup within).length_le
  rw [length_crew, List.length_cons, ← seated.gone] at shorter
  exact shorter

/-- While a worker is here the run has not ended, so that its leaving decides whether it has. -/
theorem Phase.leaves {others : List Actor} {remaining : WorkQueue} (seated : Seated absent run)
    (phase : Phase run)
    (asked : WorkQueue.Asked number (run.world.queue queue) (some .ended) remaining)
    (head : run.line = .worker queue number :: others) :
    Phase (run.withQueue queue remaining).rest.leave := by
  have isClosed : (run.world.queue queue).closed = true := by
    cases asked with
    | ended isClosed => exact isClosed
  cases phase with
  | running _ isOpen => simp [isOpen queue] at isClosed
  | stopped cancelled closed nobody away stage =>
      have notAllGone : run.allGone = false := by
        have inLine : .worker queue number ∈ run.line := head ▸ List.mem_cons_self
        have gone := seated.gone_lt inLine
        exact decide_eq_false (Nat.ne_of_lt gone)
      rw [notAllGone] at stage
      rw [leave_eq]
      refine .stopped cancelled
        (fun name => (closed_of_asked asked name).trans (closed name))
        (nobody_of_asked asked (by simp) nobody) ?_ ?_
      · intro inLine
        exact away (intake_mem_update.mp ((mem_rest_of_asked seated asked head _).mp inLine).1)
      · have stageIs : (run.withQueue queue remaining).rest.stage = .stopping := stage
        rw [stageIs]
        simp [allGone]

theorem keeps_withHead {actor : Actor} {before after : List Actor}
    (inLine : run.line = before ++ actor :: after) :
    Keeps run (run.withHead actor (before ++ after)) := by
  have perm : (actor :: (before ++ after)).Perm run.line := inLine ▸ List.perm_middle.symm
  refine ⟨fun _ => .refl _, rfl, rfl, fun seated => ?_, fun phase => ?_,
    fun _ => perm.mem_iff.mpr⟩
  · refine ⟨perm.nodup_iff.mpr seated.lineNodup, seated.knownNodup, ?_, seated.absentNodup,
      seated.absentCrew, seated.gone⟩
    intro name number
    have placed := seated.placed name number
    have same : .worker name number ∈ (run.withHead actor (before ++ after)).line ↔
      .worker name number ∈ run.line := perm.mem_iff
    exact ⟨fun inCrew => by rw [same]; exact placed.somewhere inCrew,
      fun within => placed.inLine (same.mp within), placed.waiting,
      fun awake => same.mpr (placed.awake awake)⟩
  · have same : .intake ∈ (run.withHead actor (before ++ after)).line ↔ .intake ∈ run.line :=
      perm.mem_iff
    cases phase with
    | running stage isOpen noticed =>
        exact .running stage isOpen fun cancelled => same.mpr (noticed cancelled)
    | stopped cancelled closed nobody away stage =>
        exact .stopped cancelled closed nobody (fun within => away (same.mp within)) stage

end ControllerRun

end VolumeAttacher.Simulation
