import VolumeAttacher.Proofs.Queue.History
import VolumeAttacher.Reconcile.Controller

/-!
# A crew of workers

Any number of workers take keys from the two queues of a controller. Whoever is handed a key runs
the sync of the task that it stands for, one request after another, and is done with the key when
the sync has ended. A `Crew` is the two queues with the jobs that run. Between any two of its steps
there may be others: requests of other jobs, and whatever producers, timers and other jobs do to the
queues.

A job runs exactly as long as its worker holds its key, so that what is known of who holds a key
bounds the jobs.
-/

namespace VolumeAttacher.Reconcile

open WorkQueue (Event Holds Usage)

/-- A sync that runs. -/
structure Job where
  worker : Nat
  task : Task
  /-- What is left to be done. -/
  rest : Requests (Except Failure Unit)

structure Crew where
  usage : QueueName → Usage
  jobs : List Job

namespace Crew

variable {controller : Controller} {policies : QueueName → RetryPolicy} {crew later : Crew}

/-- A crew that has not begun. -/
def initial (policies : QueueName → RetryPolicy) : Crew :=
  ⟨fun name => .initial (policies name), []⟩

/-- The job that begins with an event, if any. -/
def begun (controller : Controller) (name : QueueName) : Option Event → List Job
  | some (.handedOut worker key) => [⟨worker, ⟨name, key⟩, (controller.sync ⟨name, key⟩).run⟩]
  | _ => []

def update (crew : Crew) (name : QueueName) (event : Option Event) (queue : WorkQueue)
    (jobs : List Job) : Crew where
  usage :=
    Function.update crew.usage name ⟨queue, event.toList ++ (crew.usage name).history⟩
  jobs

inductive Step (controller : Controller) (crew : Crew) : Crew → Prop where
  /-- Somebody uses a queue. What a job asks of the queues is such an operation as well. -/
  | operate (name : QueueName) (operation : WorkQueue.Operation) {event : Option Event}
      {queue : WorkQueue}
      (notFinish : ∀ worker key, operation ≠ .finish worker key)
      (runs : operation.run (crew.usage name).queue = (event, queue)) :
      Step controller crew (crew.update name event queue (begun controller name event ++ crew.jobs))
  | answer (before after : List Job) {worker : Nat} {task : Task} {request : Request}
      {next : request.Answer → Requests (Except Failure Unit)} (answer : request.Answer)
      (running : crew.jobs = before ++ ⟨worker, task, .ask request next⟩ :: after) :
      Step controller crew ⟨crew.usage, before ++ ⟨worker, task, next answer⟩ :: after⟩
  | finish (before after : List Job) {worker : Nat} {task : Task} {result : Except Failure Unit}
      {event : Option Event} {queue : WorkQueue}
      (ended : crew.jobs = before ++ ⟨worker, task, .done result⟩ :: after)
      (runs : (WorkQueue.Operation.finish worker task.key).run (crew.usage task.queue).queue =
        (event, queue)) :
      Step controller crew (crew.update task.queue event queue (before ++ after))

abbrev Reaches (controller : Controller) : Crew → Crew → Prop :=
  Relation.ReflTransGen (Step controller)

/-- Whether a worker runs a job for a task. -/
def Runs (jobs : List Job) (worker : Nat) (task : Task) : Prop :=
  ∃ job ∈ jobs, job.worker = worker ∧ job.task = task

structure Sound (policies : QueueName → RetryPolicy) (crew : Crew) : Prop where
  reached : ∀ name, (Usage.initial (policies name)).Reaches (crew.usage name)
  held : ∀ worker task,
    Holds (crew.usage task.queue).history worker task.key ↔ Runs crew.jobs worker task
  nodup : (crew.jobs.map Job.task).Nodup

theorem sound_initial : Sound policies (initial policies) where
  reached _ := .refl
  held := by simp [initial, Usage.initial, Runs, WorkQueue.not_since_nil]
  nodup := List.nodup_nil

theorem Sound.reached_update (sound : crew.Sound policies) {name : QueueName}
    {operation : WorkQueue.Operation} {event : Option Event} {queue : WorkQueue}
    (allowed : (crew.usage name).Allows operation)
    (runs : operation.run (crew.usage name).queue = (event, queue)) (jobs : List Job)
    (other : QueueName) :
    (Usage.initial (policies other)).Reaches ((crew.update name event queue jobs).usage other) := by
  by_cases same : other = name
  · subst same
    simp only [update, Function.update_self]
    exact (sound.reached other).tail (.mk operation allowed runs)
  · simp only [update, Function.update_of_ne same]
    exact sound.reached other

theorem history_update {name : QueueName} {event : Option Event} {queue : WorkQueue}
    {jobs : List Job} (other : QueueName) :
    ((crew.update name event queue jobs).usage other).history =
      if other = name then event.toList ++ (crew.usage name).history
      else (crew.usage other).history := by
  by_cases same : other = name
  · subst same
    simp [update]
  · simp [update, same]

/-- An event with which everybody goes on to hold what he held. -/
theorem Sound.beside (sound : crew.Sound policies) {name : QueueName} {event : Option Event}
    {queue : WorkQueue}
    (reached : ∀ other, (Usage.initial (policies other)).Reaches
      ((crew.update name event queue crew.jobs).usage other))
    (same : ∀ worker key, Holds (event.toList ++ (crew.usage name).history) worker key ↔
      Holds (crew.usage name).history worker key) :
    Sound policies (crew.update name event queue crew.jobs) := by
  refine ⟨reached, ?_, sound.nodup⟩
  intro worker task
  rw [history_update]
  split
  next isName =>
      rw [same, ← isName]
      exact sound.held worker task
  next => exact sound.held worker task

/-- A key that is handed out begins a job for a task for which there is none. -/
theorem Sound.handedOut (sound : crew.Sound policies) {name : QueueName} {worker : Nat}
    {key : String} {queue : WorkQueue} {jobs : List Job}
    (reached : ∀ other, (Usage.initial (policies other)).Reaches
      ((crew.update name (some (.handedOut worker key)) queue jobs).usage other))
    (ready : key ∈ (crew.usage name).queue.ready)
    (isBegun : jobs = begun controller name (some (.handedOut worker key)) ++ crew.jobs) :
    Sound policies (crew.update name (some (.handedOut worker key)) queue jobs) := by
  have unheld (other : Nat) : ¬Runs crew.jobs other ⟨name, key⟩ := fun runs =>
    Usage.Sound.not_holds (sound.reached name).sound ready other
      ((sound.held other ⟨name, key⟩).mpr runs)
  have runs_iff (other : Nat) (task : Task) :
      Runs jobs other task ↔ (worker = other ∧ ⟨name, key⟩ = task) ∨ Runs crew.jobs other task := by
    subst isBegun
    simp [Runs, begun]
  refine ⟨reached, ?_, ?_⟩
  · intro other task
    rw [history_update, show (crew.update name _ queue jobs).jobs = jobs from rfl, runs_iff]
    rcases task with ⟨taskName, taskKey⟩
    by_cases same : taskName = name
    · subst same
      have held := sound.held other ⟨taskName, taskKey⟩
      simp [held]
    · have held := sound.held other ⟨taskName, taskKey⟩
      simpa [same, Ne.symm same] using held
  · show (jobs.map Job.task).Nodup
    subst isBegun
    refine List.nodup_cons.mpr ⟨?_, sound.nodup⟩
    intro within
    rcases List.mem_map.mp within with ⟨job, jobMem, isTask⟩
    exact unheld job.worker ⟨job, jobMem, rfl, isTask⟩

theorem Sound.operate (sound : crew.Sound policies) {name : QueueName}
    {operation : WorkQueue.Operation} {event : Option Event} {queue : WorkQueue}
    (notFinish : ∀ worker key, operation ≠ .finish worker key)
    (runs : operation.run (crew.usage name).queue = (event, queue)) :
    Sound policies (crew.update name event queue (begun controller name event ++ crew.jobs)) := by
  have allowed : (crew.usage name).Allows operation := by
    cases operation with
    | finish worker key => exact absurd rfl (notFinish worker key)
    | _ => trivial
  have reached := sound.reached_update allowed runs
  cases WorkQueue.Operation.change runs with
  | aside | closed => exact sound.beside (reached _) fun worker key => Iff.rfl
  | ignored | added =>
      exact sound.beside (reached _) fun worker key => WorkQueue.holds_added
  | handedOut worker key first keys =>
      exact sound.handedOut (reached _) (first ▸ List.mem_cons_self) rfl
  | finished worker key keys =>
      exact absurd (WorkQueue.eq_finish_of_run runs) (notFinish worker key)

theorem Sound.finish (sound : crew.Sound policies) {before after : List Job} {job : Job}
    {queue : WorkQueue} {event : Option Event} (ended : crew.jobs = before ++ job :: after)
    (runs : (WorkQueue.Operation.finish job.worker job.task.key).run
      (crew.usage job.task.queue).queue = (event, queue)) :
    Sound policies (crew.update job.task.queue event queue (before ++ after)) := by
  have allowed : (crew.usage job.task.queue).Allows (.finish job.worker job.task.key) :=
    (sound.held _ _).mpr ⟨job, ended ▸ List.mem_append_right _ List.mem_cons_self, rfl, rfl⟩
  have nodup := sound.nodup
  rw [ended, List.map_append, List.map_cons, List.nodup_middle, ← List.map_append,
    List.nodup_cons] at nodup
  rcases nodup with ⟨alone, nodup⟩
  have runs_iff (worker : Nat) (task : Task) :
      Runs (before ++ after) worker task ↔
        ¬(job.worker = worker ∧ job.task = task) ∧ Runs crew.jobs worker task := by
    constructor
    · rintro ⟨other, otherMem, rfl, rfl⟩
      have isOther : job.task ≠ other.task := fun same =>
        alone (List.mem_map.mpr ⟨other, otherMem, same.symm⟩)
      exact ⟨fun same => isOther same.2, other, by grind, rfl, rfl⟩
    · rintro ⟨isOther, other, otherMem, rfl, rfl⟩
      exact ⟨other, by grind, rfl, rfl⟩
  have isFinished : event = some (.finished job.worker job.task.key) :=
    (congrArg Prod.fst runs).symm
  subst isFinished
  refine ⟨sound.reached_update allowed runs _, ?_, nodup⟩
  intro worker task
  rw [history_update, show (crew.update job.task.queue _ queue (before ++ after)).jobs =
    before ++ after from rfl, runs_iff, ← sound.held]
  rcases task with ⟨taskName, taskKey⟩
  by_cases same : taskName = job.task.queue
  · subst same
    have sameTask : job.task = ⟨job.task.queue, taskKey⟩ ↔ job.task.key = taskKey := by
      rcases job.task with ⟨name, key⟩
      simp
    simp [sameTask]
  · have otherTask : job.task ≠ ⟨taskName, taskKey⟩ := by
      rintro isTask
      exact same (by rw [isTask])
    simp [same, otherTask]

theorem Sound.step (sound : crew.Sound policies) (step : Step controller crew later) :
    later.Sound policies := by
  cases step with
  | operate name operation notFinish runs => exact sound.operate notFinish runs
  | answer before after answer running =>
      rcases sound with ⟨reached, held, nodup⟩
      rw [running] at nodup
      refine ⟨reached, ?_, by simpa using nodup⟩
      intro worker task
      rw [held worker task, running]
      simp [Runs, or_and_right, exists_or]
  | finish before after ended runs => exact sound.finish ended runs

theorem Reaches.sound (reaches : Reaches controller (initial policies) crew) :
    crew.Sound policies := by
  induction reaches with
  | refl => exact sound_initial
  | tail _ step ih => exact ih.step step

/-- In every use of a queue the ready keys are distinct, marked as dirty and not being processed,
and a key is not handed out again before the worker that was handed it is done with it; and so of
the jobs of any number of workers no two are for the same attachment or the same volume. -/
theorem jobs_nodup {policy : RetryPolicy} {usage : Usage}
    (reached : (Usage.initial policy).Reaches usage)
    (reaches : Reaches controller (initial policies) crew) :
    usage.queue.ready.Nodup ∧
      (∀ key ∈ usage.queue.ready, key ∉ usage.queue.processing ∧ key ∈ usage.queue.dirty) ∧
      (∀ newer between older first second key,
        usage.history =
          newer ++ .handedOut second key :: (between ++ .handedOut first key :: older) →
        .finished first key ∈ between) ∧
      (∀ name, (Usage.initial (policies name)).Reaches (crew.usage name)) ∧
      (crew.jobs.map Job.task).Nodup := by
  have sound := reached.sound
  refine ⟨sound.nodup, ?_, ?_, reaches.sound.reached, reaches.sound.nodup⟩
  · intro key ready
    exact ⟨sound.idle key ready, sound.marked key ready⟩
  · intro newer between older first second key happened
    exact reached.finished_between happened

/-- A key that is handed out twice, and two workers at work on an attachment and a volume of one
name. -/
theorem jobs_nodup_of_two : ∃ usage crew,
    (Usage.initial ⟨5, 1000⟩).Reaches usage ∧
      Reaches ⟨"csi.example.com", .trivial true⟩ (initial fun _ => ⟨5, 1000⟩) crew ∧
      usage.history =
        [.handedOut 2 "a"] ++ ([.finished 1 "a", .added "a"] ++ [.handedOut 1 "a", .added "a"]) ∧
      .finished 1 "a" ∈ [Event.finished 1 "a", .added "a"] ∧
      crew.jobs.map Job.task = [⟨.volumes, "a"⟩, ⟨.attachments, "a"⟩] ∧
      (crew.jobs.map Job.task).Nodup := by
  have added : (Usage.initial ⟨5, 1000⟩).Reaches _ := .single (.mk (.add "a") trivial rfl)
  have taken := added.tail (.mk (.take 1) trivial rfl)
  have again := taken.tail (.mk (.add "a") trivial rfl)
  have holds : Holds [.added "a", .handedOut 1 "a", .added "a"] 1 "a" := by decide
  have finished := again.tail (.mk (.finish 1 "a") holds rfl)
  have reached := finished.tail (.mk (.take 2) trivial rfl)
  have attachment : Reaches ⟨"csi.example.com", .trivial true⟩
      (initial fun _ => ⟨5, 1000⟩) _ :=
    .single (.operate .attachments (.add "a") (by simp) rfl)
  have working := attachment.tail (.operate .attachments (.take 1) (by simp) rfl)
  have volume := working.tail (.operate .volumes (.add "a") (by simp) rfl)
  have reaches := volume.tail (.operate .volumes (.take 2) (by simp) rfl)
  rcases jobs_nodup reached reaches with ⟨_, _, finishedBetween, _, nodup⟩
  exact ⟨_, _, reached, reaches, rfl, finishedBetween [] _ _ 1 2 "a" rfl, rfl, nodup⟩

end Crew

end VolumeAttacher.Reconcile
