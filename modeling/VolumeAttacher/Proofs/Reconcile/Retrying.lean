import VolumeAttacher.Proofs.Cluster.Simulated
import VolumeAttacher.Proofs.Queue.Delays
import VolumeAttacher.Proofs.Reconcile.Crew
import VolumeAttacher.Proofs.Reconcile.Verdicts

/-!
# Failed syncs are tried again

A `Roster` is a crew of workers with a clock and a record of what has come of its syncs so far. Its
queues stay open. Anybody may add keys, at once or after a delay; only syncs forget failures or
count another one, by the requests that they make. The timer of a delayed add fires in two steps,
between which anything may happen: it expires, which takes the delayed add away, and then it adds
the key.

What is kept of a key is then known from the record alone, and so is the delay after which a sync
that fails is tried again. A key is not handed out while it is worked on, so that it stays scheduled
from the verdict on until the worker is done with it, be it by a timer that has expired and is about
to add the key.
-/

namespace VolumeAttacher.Reconcile

open WorkQueue (Event Usage)

/-- What a request does to a queue. -/
def Request.use? (now : Nat) : Request → Option (QueueName × WorkQueue.Operation)
  | enqueue name key => some (name, .add key)
  | retry name key => some (name, .addLater now key)
  | forget name key => some (name, .forget key)
  | _ => none

/-- The failures of a key since one of its syncs has settled. Syncs that passed by an attachment do
not count. -/
def failedSince : List Outcome → Nat
  | [] => 0
  | .failed :: earlier => failedSince earlier + 1
  | .passedBy :: earlier => failedSince earlier
  | .settled :: _ => 0

/-- A sync that runs, with what it has found. -/
structure Duty where
  job : Job
  found : Option Finding

abbrev Duty.task (duty : Duty) : Task :=
  duty.job.task

structure Roster where
  now : Nat
  usage : QueueName → Usage
  /-- The timers that have expired, with their instants, whose keys have not been added yet. -/
  expiries : QueueName → List (Nat × String)
  duties : List Duty
  /-- What has come of the syncs of each task, the latest first. -/
  outcomes : Task → List Outcome

namespace Roster

/-- A roster before the first sync. -/
def initial (policies : QueueName → RetryPolicy) (now : Nat) : Roster :=
  ⟨now, fun name => .initial (policies name), fun _ => [], [], fun _ => []⟩

def crew (roster : Roster) : Crew :=
  ⟨roster.usage, roster.duties.map Duty.job⟩

/-- The queues after an operation on one of them. -/
def used (roster : Roster) (name : QueueName) (event : Option Event) (queue : WorkQueue) :
    QueueName → Usage :=
  Function.update roster.usage name ⟨queue, event.toList ++ (roster.usage name).history⟩

/-- The record after a sync has gone on, which has returned if nothing is left of it. -/
def recorded (roster : Roster) (task : Task) (found : Option Finding) :
    Requests (Except Failure Unit) → Task → List Outcome
  | .done result =>
      Function.update roster.outcomes task (.of found result :: roster.outcomes task)
  | .ask _ _ => roster.outcomes

/-- The roster after a sync has gone on. -/
def goOn (roster : Roster) (usage : QueueName → Usage) (before after : List Duty) (worker : Nat)
    (task : Task) (found : Option Finding) (rest : Requests (Except Failure Unit)) : Roster where
  now := roster.now
  usage
  expiries := roster.expiries
  duties := before ++ ⟨⟨worker, task, rest⟩, found⟩ :: after
  outcomes := roster.recorded task found rest

/-- A timer that finds its own instant expires: it takes the delayed add away. -/
def expire (roster : Roster) (name : QueueName) (key : String) (due : Nat) : Roster :=
  let queue := (roster.usage name).queue
  { roster with
    usage := roster.used name none { queue with delayed := Table.erase queue.delayed key }
    expiries := Function.update roster.expiries name ((due, key) :: roster.expiries name) }

/-- The key of an expired timer is added. -/
def deliver (roster : Roster) (name : QueueName) (key : String) (due : Nat) : Roster :=
  { roster with
    usage := roster.used name (some (.added key)) ((roster.usage name).queue.add key)
    expiries := Function.update roster.expiries name ((roster.expiries name).erase (due, key)) }

/-- Whether an operation on a queue may come from elsewhere than from a sync or a timer. -/
def isOutside : WorkQueue.Operation → Bool
  | .add _ | .addAfter _ _ _ | .take _ | .retake _ => true
  | _ => false

variable (reconciler : Reconciler) (driver : String)

inductive Step (roster : Roster) : Roster → Prop where
  | wait (later : Nat) (isLater : roster.now ≤ later) : Step roster { roster with now := later }
  /-- Somebody uses a queue; a key that is handed out begins a sync. -/
  | operate (name : QueueName) (operation : WorkQueue.Operation) {event : Option Event}
      {queue : WorkQueue} (outside : isOutside operation)
      (runs : operation.run (roster.usage name).queue = (event, queue)) :
      Step roster
        { roster with
          usage := roster.used name event queue
          duties := (Crew.begun (reconciler.controller driver) name event).map (⟨·, none⟩) ++
            roster.duties }
  /-- A timer that does not find its own instant changes nothing. -/
  | expire (name : QueueName) (key : String) (due : Nat)
      (found : Table.find? (roster.usage name).queue.delayed key = some due) :
      Step roster (roster.expire name key due)
  | deliver (name : QueueName) (key : String) (due : Nat)
      (expired : (due, key) ∈ roster.expiries name) : Step roster (roster.deliver name key due)
  /-- A request that does not concern the queues is answered, in whatever way. -/
  | answer (before after : List Duty) {worker : Nat} {task : Task} {request : Request}
      {next : request.Answer → Requests (Except Failure Unit)} {found : Option Finding}
      (answer : request.Answer)
      (running : roster.duties = before ++ ⟨⟨worker, task, .ask request next⟩, found⟩ :: after)
      (noUse : request.use? roster.now = none) (named : request.FindsNamed answer) :
      Step roster
        (roster.goOn roster.usage before after worker task
          (found <|> reconciler.finding? driver request answer) (next answer))
  /-- A request is an operation on a queue. -/
  | use (before after : List Duty) {worker : Nat} {task : Task} {request : Request}
      {next : request.Answer → Requests (Except Failure Unit)} {found : Option Finding}
      {name : QueueName} {operation : WorkQueue.Operation} {event : Option Event}
      {queue : WorkQueue} (answer : request.Answer)
      (running : roster.duties = before ++ ⟨⟨worker, task, .ask request next⟩, found⟩ :: after)
      (uses : request.use? roster.now = some (name, operation))
      (runs : operation.run (roster.usage name).queue = (event, queue)) :
      Step roster
        (roster.goOn (roster.used name event queue) before after worker task found (next answer))
  /-- A worker is done with the key of a sync that has returned. -/
  | finish (before after : List Duty) {worker : Nat} {task : Task}
      {result : Except Failure Unit} {found : Option Finding} {event : Option Event}
      {queue : WorkQueue}
      (ended : roster.duties = before ++ ⟨⟨worker, task, .done result⟩, found⟩ :: after)
      (runs : (WorkQueue.Operation.finish worker task.key).run (roster.usage task.queue).queue =
        (event, queue)) :
      Step roster
        { roster with usage := roster.used task.queue event queue, duties := before ++ after }

abbrev Reaches : Roster → Roster → Prop :=
  Relation.ReflTransGen (Step reconciler driver)

variable {reconciler : Reconciler} {driver : String} {policies : QueueName → RetryPolicy}
  {roster later : Roster} {name : QueueName} {operation : WorkQueue.Operation}
  {event : Option Event} {queue : WorkQueue} {task : Task} {outcomes : Task → List Outcome}

theorem isUsual_of_isOutside (outside : isOutside operation) :
    operation.isUsual ∧ (∀ backoff, operation.counted backoff = backoff) ∧
      ∀ worker key, operation ≠ .finish worker key := by
  cases operation with
  | add | addAfter | take | retake => exact ⟨rfl, fun _ => rfl, by simp⟩
  | addLater | fire | finish | forget | close | stir => contradiction

/-- The operations that requests are hand out no keys. -/
theorem isUsual_of_use? {now : Nat} {request : Request}
    (uses : request.use? now = some (name, operation)) :
    operation.isUsual ∧ (∀ worker key, operation ≠ .finish worker key) ∧
      ∀ {controller queue new event}, operation.run queue = (event, new) →
        Crew.begun controller name event = [] := by
  cases request with
  | enqueue _ key | forget _ key =>
      cases uses
      refine ⟨rfl, by simp, ?_⟩
      intro controller queue new event runs
      cases runs
      rfl
  | retry _ key =>
      cases uses
      refine ⟨rfl, by simp, ?_⟩
      intro controller queue new event runs
      rw [WorkQueue.Operation.run, Prod.mk.injEq] at runs
      rw [← runs.1]
      split <;> rfl
  | _ => contradiction

theorem used_queue (roster : Roster) (name other : QueueName) (event : Option Event)
    (queue : WorkQueue) :
    (roster.used name event queue other).queue =
      if other = name then queue else (roster.usage other).queue := by
  by_cases same : other = name
  · subst same
    simp [used]
  · simp [used, same]

/-- Every step of a roster is one of its crew, or two. -/
theorem step_crew (step : Step reconciler driver roster later)
    (sound : roster.crew.Sound policies) : later.crew.Sound policies := by
  cases step with
  | wait later isLater => exact sound
  | @operate name operation event queue outside runs =>
      have operated : Crew.Step (reconciler.controller driver) roster.crew
          ⟨roster.used name event queue,
            Crew.begun (reconciler.controller driver) name event ++ roster.crew.jobs⟩ :=
        .operate name operation (isUsual_of_isOutside outside).2.2 runs
      have begun : (Crew.begun (reconciler.controller driver) name event).map
          (fun job => (⟨job, none⟩ : Duty).job) = Crew.begun _ name event := List.map_id _
      simpa only [crew, List.map_append, List.map_map, Function.comp_def, begun] using
        sound.step operated
  | expire name key due found =>
      have stirred : Crew.Step (reconciler.controller driver) roster.crew
          ⟨roster.used name none _, roster.crew.jobs⟩ :=
        .operate name (.stir (Table.erase (roster.usage name).queue.delayed key)
          (roster.usage name).queue.backoff (roster.usage name).queue.signal) (by simp) rfl
      exact sound.step stirred
  | deliver name key due expired =>
      have added : Crew.Step (reconciler.controller driver) roster.crew
          ⟨roster.used name (some (.added key)) _, roster.crew.jobs⟩ :=
        .operate name (.add key) (by simp) rfl
      exact sound.step added
  | @answer before after worker task request next found answer running noUse named =>
      have answered : Crew.Step (reconciler.controller driver) roster.crew
          ⟨roster.usage,
            before.map Duty.job ++ ⟨worker, task, next answer⟩ :: after.map Duty.job⟩ :=
        .answer _ _ answer (by simp only [crew, running, List.map_append, List.map_cons])
      simpa only [crew, goOn, List.map_append, List.map_cons] using sound.step answered
  | @use before after worker task request next found name operation event queue answer running
      uses runs =>
      rcases isUsual_of_use? uses with ⟨_, notFinish, begun⟩
      have operated : Crew.Step (reconciler.controller driver) roster.crew
          ⟨roster.used name event queue, [] ++ roster.crew.jobs⟩ := by
        rw [← begun runs]
        exact .operate _ _ notFinish runs
      have answered : Crew.Step (reconciler.controller driver)
          ⟨roster.used name event queue, [] ++ roster.crew.jobs⟩
          ⟨roster.used name event queue,
            before.map Duty.job ++ ⟨worker, task, next answer⟩ :: after.map Duty.job⟩ :=
        .answer _ _ answer (by
          simp only [crew, running, List.map_append, List.map_cons, List.nil_append])
      simpa only [crew, goOn, List.map_append, List.map_cons] using
        (sound.step operated).step answered
  | @finish before after worker task result found event queue ended runs =>
      have finished : Crew.Step (reconciler.controller driver) roster.crew
          ⟨roster.used task.queue event queue,
            before.map Duty.job ++ after.map Duty.job⟩ :=
        .finish _ _ (by simp only [crew, ended, List.map_append, List.map_cons]; rfl) runs
      simpa only [crew, List.map_append] using sound.step finished

/-- Whether the key of a task is scheduled by a deadline, or it is about to be added by a timer that
was due by then. -/
def IsScheduled (roster : Roster) (task : Task) (deadline : Nat) : Prop :=
  (roster.usage task.queue).queue.IsScheduled task.key deadline ∨
    ∃ due, (due, task.key) ∈ roster.expiries task.queue ∧ due ≤ deadline

theorem IsScheduled.mono {deadline extended : Nat} (scheduled : roster.IsScheduled task deadline)
    (isLater : deadline ≤ extended) : roster.IsScheduled task extended := by
  rcases scheduled with inQueue | ⟨due, expired, dueBy⟩
  · exact .inl (inQueue.mono isLater)
  · exact .inr ⟨due, expired, Nat.le_trans dueBy isLater⟩

/-- Whether the latest sync of a task has failed, and the key is scheduled by the end of the delay
that follows. -/
def IsRetried (policies : QueueName → RetryPolicy) (roster : Roster) (task : Task) : Prop :=
  ∃ earlier, roster.outcomes task = .failed :: earlier ∧
    roster.IsScheduled task
      (roster.now + (policies task.queue).waitAfter (failedSince earlier))

/-- Whether a phase fits what a sync has found and what has come of it. -/
structure Fits (policies : QueueName → RetryPolicy) (roster : Roster) (duty : Duty)
    (phase : Phase) : Prop where
  finds : phase.Finds duty.found
  retried : phase = .failed → roster.IsRetried policies duty.task

/-- Whether the failures that are kept of each key are those of the record. -/
def Counts (policies : QueueName → RetryPolicy) (usage : QueueName → Usage)
    (outcomes : Task → List Outcome) : Prop :=
  ∀ task, (usage task.queue).queue.backoff.Counts (policies task.queue) task.key
    (failedSince (outcomes task))

structure Sound (reconciler : Reconciler) (driver : String) (policies : QueueName → RetryPolicy)
    (roster : Roster) : Prop where
  crew : roster.crew.Sound policies
  isOpen : ∀ name, (roster.usage name).queue.closed = false
  counts : Counts policies roster.usage roster.outcomes
  duties : ∀ duty ∈ roster.duties, ∃ phase,
    duty.job.rest.Follows (Phase.Move reconciler driver duty.task) Phase.Ends phase ∧
      roster.Fits policies duty phase

theorem sound_initial (now : Nat) : Sound reconciler driver policies (initial policies now) where
  crew := Crew.sound_initial
  isOpen _ := rfl
  counts _ := ⟨rfl, rfl⟩
  duties := by simp [initial]

/-- Whether the keys that are worked on and are scheduled stay so. -/
def KeepsScheduled (roster later : Roster) : Prop :=
  ∀ duty ∈ roster.duties, ∀ deadline,
    roster.IsScheduled duty.task deadline → later.IsScheduled duty.task deadline

/-- What is known of a sync that does not go on is still known later. -/
theorem Sound.kept (sound : Sound reconciler driver policies roster) {duty : Duty}
    (dutyMem : duty ∈ roster.duties) (isLater : roster.now ≤ later.now)
    (sameOutcomes : later.outcomes duty.task = roster.outcomes duty.task)
    (keeps : roster.KeepsScheduled later) :
    ∃ phase, duty.job.rest.Follows (Phase.Move reconciler driver duty.task) Phase.Ends phase ∧
      later.Fits policies duty phase := by
  rcases sound.duties duty dutyMem with ⟨phase, follows, fits⟩
  refine ⟨phase, follows, fits.finds, ?_⟩
  intro hasFailed
  rcases fits.retried hasFailed with ⟨earlier, latest, inTime⟩
  refine ⟨earlier, sameOutcomes.trans latest, ?_⟩
  exact (keeps duty dutyMem _ inTime).mono (Nat.add_le_add_right isLater _)

/-- A sync that has returned is recorded as its phase tells. -/
theorem recorded_eq {found : Option Finding} {rest : Requests (Except Failure Unit)}
    {phase : Phase}
    (follows : rest.Follows (Phase.Move reconciler driver task) Phase.Ends phase)
    (finds : phase.Finds found) :
    roster.recorded task found rest =
      Function.update roster.outcomes task (phase.outcome?.toList ++ roster.outcomes task) := by
  cases rest with
  | done result =>
      have outcome : phase.outcome? = some (.of found result) := by
        cases result <;> cases phase <;>
          simp_all [Phase.Ends, Action.Ending, Phase.succeeds, Phase.fails, Phase.Finds,
            Phase.outcome?, Outcome.of]
      rw [outcome]
      rfl
  | ask request next =>
      rcases follows with ⟨_, move, _⟩
      have unended : phase.outcome? = none := by cases move <;> rfl
      rw [unended]
      exact (Function.update_eq_self _ _).symm

/-- A key is not ready while it is being worked on. -/
theorem Sound.not_ready (sound : Sound reconciler driver policies roster) {duty : Duty}
    (dutyMem : duty ∈ roster.duties) :
    duty.task.key ∉ (roster.usage duty.task.queue).queue.ready := by
  intro ready
  have holds := (sound.crew.held duty.job.worker duty.task).mpr
    ⟨duty.job, List.mem_map_of_mem dutyMem, rfl, rfl⟩
  exact (sound.crew.reached duty.task.queue).sound.not_holds ready _ holds

/-- An operation on a queue hands out no key that is worked on. -/
theorem Sound.isScheduled_used (sound : Sound reconciler driver policies roster)
    (isUsual : operation.isUsual)
    (runs : operation.run (roster.usage name).queue = (event, queue)) {duty : Duty}
    (dutyMem : duty ∈ roster.duties) {deadline : Nat}
    (scheduled : (roster.usage duty.task.queue).queue.IsScheduled duty.task.key deadline) :
    (roster.used name event queue duty.task.queue).queue.IsScheduled duty.task.key deadline := by
  rw [used_queue]
  split
  next same =>
      have notReady := sound.not_ready dutyMem
      rw [same] at scheduled notReady
      apply scheduled.run isUsual (sound.isOpen name) runs
      rintro worker rfl
      cases WorkQueue.Operation.change runs with
      | handedOut _ _ first => exact notReady (first ▸ List.mem_cons_self)
  next => exact scheduled

theorem Sound.keepsScheduled_used (sound : Sound reconciler driver policies roster)
    (isUsual : operation.isUsual)
    (runs : operation.run (roster.usage name).queue = (event, queue))
    (usage : later.usage = roster.used name event queue)
    (expiries : later.expiries = roster.expiries) : roster.KeepsScheduled later := by
  intro duty dutyMem deadline scheduled
  unfold IsScheduled
  rw [usage, expiries]
  exact scheduled.imp_left (sound.isScheduled_used isUsual runs dutyMem)

/-- The key of a delayed add whose timer expires is about to be added. -/
theorem keepsScheduled_expire {key : String} {due : Nat}
    (found : Table.find? (roster.usage name).queue.delayed key = some due) :
    roster.KeepsScheduled (roster.expire name key due) := by
  rintro ⟨⟨_, ⟨other, otherKey⟩, _⟩, _⟩ _ deadline scheduled
  by_cases same : other = name
  · subst same
    simp only [IsScheduled, expire, used, Function.update_self, List.mem_cons] at scheduled ⊢
    rcases scheduled with (dirty | ⟨dueThen, delayed, dueBy⟩) | ⟨dueThen, expired, dueBy⟩
    · exact .inl (.inl dirty)
    · by_cases isKey : otherKey = key
      · subst isKey
        cases found.symm.trans delayed
        exact .inr ⟨due, .inl rfl, dueBy⟩
      · refine .inl (.inr ⟨dueThen, ?_, dueBy⟩)
        exact ((Table.find?_erase _ _ _).trans (if_neg isKey)).trans delayed
    · exact .inr ⟨dueThen, .inr expired, dueBy⟩
  · simp only [IsScheduled, expire, used, Function.update_of_ne same] at scheduled ⊢
    exact scheduled

/-- The key of an expired timer is dirty once it has been added. -/
theorem Sound.keepsScheduled_deliver (sound : Sound reconciler driver policies roster)
    (name : QueueName) (key : String) (due : Nat) :
    roster.KeepsScheduled (roster.deliver name key due) := by
  intro duty dutyMem deadline scheduled
  have adds : (WorkQueue.Operation.add key).run (roster.usage name).queue =
      (some (.added key), (roster.usage name).queue.add key) := rfl
  rcases scheduled with inQueue | ⟨dueThen, expired, dueBy⟩
  · exact .inl (sound.isScheduled_used rfl adds dutyMem inQueue)
  · by_cases same : duty.task.queue = name
    · by_cases isTimer : (dueThen, duty.task.key) = (due, key)
      · cases isTimer
        left
        change (roster.used name _ _ duty.task.queue).queue.IsScheduled duty.task.key deadline
        rw [used_queue, if_pos same]
        exact WorkQueue.isScheduled_add (sound.isOpen name) duty.task.key
      · refine .inr ⟨dueThen, ?_, dueBy⟩
        rw [same] at expired ⊢
        simp only [deliver, Function.update_self]
        exact (List.mem_erase_of_ne isTimer).mpr expired
    · refine .inr ⟨dueThen, ?_, dueBy⟩
      simp only [deliver, Function.update_of_ne same]
      exact expired

theorem Sound.isOpen_of_same (sound : Sound reconciler driver policies roster)
    (same : queue.closed = (roster.usage name).queue.closed) (other : QueueName) :
    (roster.used name event queue other).queue.closed = false := by
  rw [used_queue]
  split
  · exact same.trans (sound.isOpen name)
  · exact sound.isOpen other

theorem Sound.isOpen_used (sound : Sound reconciler driver policies roster)
    (isUsual : operation.isUsual)
    (runs : operation.run (roster.usage name).queue = (event, queue)) (other : QueueName) :
    (roster.used name event queue other).queue.closed = false :=
  sound.isOpen_of_same (WorkQueue.Operation.run_keeps isUsual runs).2 other

/-- Of two syncs that run each works on a task of its own. -/
theorem Sound.task_ne (sound : Sound reconciler driver policies roster) {before after : List Duty}
    {duty other : Duty} (running : roster.duties = before ++ duty :: after)
    (otherMem : other ∈ before ++ after) : other.task ≠ duty.task := by
  have nodup : ((roster.duties.map Duty.job).map Job.task).Nodup := sound.crew.nodup
  rw [List.map_map] at nodup
  change (roster.duties.map Duty.task).Nodup at nodup
  rw [running, List.map_append, List.map_cons, List.nodup_middle, ← List.map_append,
    List.nodup_cons] at nodup
  intro same
  exact nodup.1 (List.mem_map.mpr ⟨other, otherMem, same⟩)

/-- A sync that has not returned, or has passed by an attachment, leaves the counts as they are. -/
theorem Counts.aside {usage : QueueName → Usage} {phase : Phase}
    (counts : Counts policies usage outcomes) (isAside : phase.IsAside) :
    Counts policies usage
      (Function.update outcomes task (phase.outcome?.toList ++ outcomes task)) := by
  have same : failedSince (phase.outcome?.toList ++ outcomes task) =
      failedSince (outcomes task) := by
    rcases isAside with unended | passedBy
    · rw [unended]
      rfl
    · rw [passedBy]
      rfl
  intro other
  by_cases isTask : other = task
  · subst isTask
    rw [Function.update_self, same]
    exact counts other
  · rw [Function.update_of_ne isTask]
    exact counts other

/-- An operation on a queue and what is recorded of a task of that queue. -/
theorem Counts.used (counts : Counts policies roster.usage roster.outcomes)
    (isUsual : operation.isUsual)
    (runs : operation.run (roster.usage task.queue).queue = (event, queue))
    {recorded : List Outcome}
    (counted : (operation.counted (roster.usage task.queue).queue.backoff).Counts
      (policies task.queue) task.key (failedSince recorded))
    (others : ∀ {key failures}, key ≠ task.key →
      (roster.usage task.queue).queue.backoff.Counts (policies task.queue) key failures →
        (operation.counted (roster.usage task.queue).queue.backoff).Counts (policies task.queue)
          key failures) :
    Counts policies (roster.used task.queue event queue)
      (Function.update roster.outcomes task recorded) := by
  rcases task with ⟨name, key⟩
  rintro ⟨otherName, other⟩
  rw [used_queue]
  by_cases same : otherName = name
  · subst same
    rw [if_pos rfl, (WorkQueue.Operation.run_keeps isUsual runs).1]
    by_cases isKey : other = key
    · subst isKey
      rw [Function.update_self]
      exact counted
    · rw [Function.update_of_ne (by simp [isKey])]
      exact others isKey (counts ⟨otherName, other⟩)
  · rw [if_neg same, Function.update_of_ne (by simp [same])]
    exact counts ⟨otherName, other⟩

theorem Counts.fail (counts : Counts policies roster.usage roster.outcomes) {now : Nat}
    (runs : (WorkQueue.Operation.addLater now task.key).run (roster.usage task.queue).queue =
      (event, queue)) :
    Counts policies (roster.used task.queue event queue)
      (Function.update roster.outcomes task (.failed :: roster.outcomes task)) :=
  counts.used rfl runs (counts task).fail fun different kept => kept.fail_of_ne different

theorem Counts.forget (counts : Counts policies roster.usage roster.outcomes)
    (runs : (WorkQueue.Operation.forget task.key).run (roster.usage task.queue).queue =
      (event, queue)) :
    Counts policies (roster.used task.queue event queue)
      (Function.update roster.outcomes task (.settled :: roster.outcomes task)) :=
  counts.used rfl runs (counts task).forget fun different kept => kept.forget_of_ne different

theorem Counts.of_same (counts : Counts policies roster.usage roster.outcomes)
    (same : queue.backoff = (roster.usage name).queue.backoff) :
    Counts policies (roster.used name event queue) roster.outcomes := by
  intro task
  rw [used_queue]
  split
  next isName =>
      rw [same, ← isName]
      exact counts task
  next => exact counts task

/-- An operation that counts nothing. -/
theorem Counts.used_aside (counts : Counts policies roster.usage roster.outcomes)
    (isUsual : operation.isUsual)
    (isAside : ∀ backoff, operation.counted backoff = backoff)
    (runs : operation.run (roster.usage name).queue = (event, queue)) :
    Counts policies (roster.used name event queue) roster.outcomes :=
  counts.of_same ((WorkQueue.Operation.run_keeps isUsual runs).1.trans (isAside _))

variable {before after : List Duty} {worker : Nat} {found foundLater : Option Finding}
  {program rest : Requests (Except Failure Unit)} {usage : QueueName → Usage} {phase : Phase}

theorem Sound.goOn (sound : Sound reconciler driver policies roster)
    (running : roster.duties = before ++ ⟨⟨worker, task, program⟩, found⟩ :: after)
    (crew : (roster.goOn usage before after worker task foundLater rest).crew.Sound policies)
    (isOpen : ∀ name, (usage name).queue.closed = false)
    (keeps : roster.KeepsScheduled
      (roster.goOn usage before after worker task foundLater rest))
    (follows : rest.Follows (Phase.Move reconciler driver task) Phase.Ends phase)
    (finds : phase.Finds foundLater)
    (counts : Counts policies usage
      (Function.update roster.outcomes task (phase.outcome?.toList ++ roster.outcomes task)))
    (scheduled : phase = .failed → (usage task.queue).queue.IsScheduled task.key
      (roster.now + (policies task.queue).waitAfter (failedSince (roster.outcomes task)))) :
    Sound reconciler driver policies
      (roster.goOn usage before after worker task foundLater rest) := by
  have recorded : roster.recorded task foundLater rest = _ := recorded_eq follows finds
  refine ⟨crew, isOpen, ?_, ?_⟩
  · change Counts policies usage (roster.recorded task foundLater rest)
    rw [recorded]
    exact counts
  · intro duty dutyMem
    have goesOn : duty = ⟨⟨worker, task, rest⟩, foundLater⟩ ∨ duty ∈ before ++ after := by
      simp only [Roster.goOn, List.mem_append, List.mem_cons] at dutyMem ⊢
      tauto
    rcases goesOn with rfl | beside
    · refine ⟨phase, follows, finds, ?_⟩
      rintro rfl
      refine ⟨roster.outcomes task, ?_, .inl (scheduled rfl)⟩
      change roster.recorded task foundLater rest task = _
      rw [recorded, Function.update_self]
      rfl
    · have dutyBefore : duty ∈ roster.duties := by
        rw [running]
        grind
      refine sound.kept dutyBefore (Nat.le_refl _) ?_ keeps
      change roster.recorded task foundLater rest duty.task = _
      rw [recorded]
      exact Function.update_of_ne (sound.task_ne running beside) _ _

/-- Going on where nothing comes of it yet. -/
theorem Sound.goOn_aside (sound : Sound reconciler driver policies roster)
    (running : roster.duties = before ++ ⟨⟨worker, task, program⟩, found⟩ :: after)
    (crew : (roster.goOn usage before after worker task foundLater rest).crew.Sound policies)
    (isOpen : ∀ name, (usage name).queue.closed = false)
    (keeps : roster.KeepsScheduled
      (roster.goOn usage before after worker task foundLater rest))
    (follows : rest.Follows (Phase.Move reconciler driver task) Phase.Ends phase)
    (finds : phase.Finds foundLater) (counts : Counts policies usage roster.outcomes)
    (isAside : phase.IsAside) :
    Sound reconciler driver policies
      (roster.goOn usage before after worker task foundLater rest) := by
  apply sound.goOn running crew isOpen keeps follows finds (counts.aside isAside)
  rintro rfl
  rcases isAside with unended | passedBy <;> contradiction

/-- A sync that begins has found nothing yet. -/
theorem follows_of_begun {duty : Duty}
    (begins : duty ∈ (Crew.begun (reconciler.controller driver) name event).map (⟨·, none⟩)) :
    duty.job.rest.Follows (Phase.Move reconciler driver duty.task) Phase.Ends .lookup ∧
      duty.found = none := by
  rcases List.mem_map.mp begins with ⟨job, jobMem, rfl⟩
  rcases event with _ | ⟨_ | ⟨worker, key⟩ | _⟩
  · contradiction
  · contradiction
  · cases List.mem_singleton.mp jobMem
    exact ⟨Phase.sync_follows ⟨name, key⟩, rfl⟩
  · contradiction

/-- The phase of a sync that runs. -/
theorem Sound.exists_phase (sound : Sound reconciler driver policies roster) {duty : Duty}
    (running : roster.duties = before ++ duty :: after) :
    ∃ phase, duty.job.rest.Follows (Phase.Move reconciler driver duty.task) Phase.Ends phase ∧
      roster.Fits policies duty phase := by
  apply sound.duties
  rw [running]
  exact List.mem_append_right _ List.mem_cons_self

/-- A request that does not concern the queues brings no verdict. -/
theorem Sound.answered (sound : Sound reconciler driver policies roster) {request : Request}
    {next : request.Answer → Requests (Except Failure Unit)} (answer : request.Answer)
    (running : roster.duties = before ++ ⟨⟨worker, task, .ask request next⟩, found⟩ :: after)
    (noUse : request.use? roster.now = none) (named : request.FindsNamed answer)
    (crew : (roster.goOn roster.usage before after worker task
      (found <|> reconciler.finding? driver request answer) (next answer)).crew.Sound policies) :
    Sound reconciler driver policies
      (roster.goOn roster.usage before after worker task
        (found <|> reconciler.finding? driver request answer) (next answer)) := by
  rcases sound.exists_phase running with ⟨phase, ⟨phaseLater, move, follows⟩, fits⟩
  have goesOn := sound.goOn_aside running crew sound.isOpen (fun _ _ _ => id) (follows answer)
  change Phase.Move reconciler driver task phase request phaseLater at move
  cases move with
  | attachment =>
      have unknown : found = none := fits.finds
      subst unknown
      exact goesOn (Phase.ofAttachment_finds named) sound.counts
        (Phase.isAside_ofAttachment answer)
  | volume =>
      have unknown : found = none := fits.finds
      subst unknown
      exact goesOn (Phase.ofVolume_finds reconciler driver named) sound.counts
        (Phase.isAside_ofVolume answer)
  | work noVerdict =>
      have isOwn : found = some .own := fits.finds
      subst isOwn
      exact goesOn rfl sound.counts (.inl rfl)
  | forget | settle | fail => contradiction
  | astray => exact absurd fits.finds id

/-- A request that is an operation on a queue adds a key, or it is the verdict on the key of the
sync. -/
theorem Sound.used (sound : Sound reconciler driver policies roster) {request : Request}
    {next : request.Answer → Requests (Except Failure Unit)} (answer : request.Answer)
    (running : roster.duties = before ++ ⟨⟨worker, task, .ask request next⟩, found⟩ :: after)
    (uses : request.use? roster.now = some (name, operation))
    (runs : operation.run (roster.usage name).queue = (event, queue))
    (crew : (roster.goOn (roster.used name event queue) before after worker task found
      (next answer)).crew.Sound policies) :
    Sound reconciler driver policies
      (roster.goOn (roster.used name event queue) before after worker task found
        (next answer)) := by
  rcases sound.exists_phase running with ⟨phase, ⟨phaseLater, move, follows⟩, fits⟩
  have isUsual := (isUsual_of_use? uses).1
  have isOpen := sound.isOpen_used isUsual runs
  have keeps : roster.KeepsScheduled (roster.goOn (roster.used name event queue) before after
      worker task found (next answer)) :=
    sound.keepsScheduled_used isUsual runs rfl rfl
  have finds : phase.Finds found := fits.finds
  change Phase.Move reconciler driver task phase request phaseLater at move
  cases move with
  | attachment | volume => contradiction
  | work noVerdict =>
      cases request with
      | enqueue _ key =>
          cases uses
          exact sound.goOn_aside running crew isOpen keeps (follows answer) finds
            (sound.counts.used_aside rfl (fun _ => rfl) runs) (.inl rfl)
      | _ => contradiction
  | forget | settle =>
      cases uses
      have notForeign : found ≠ some .foreign := by
        rintro rfl
        cases finds
      exact sound.goOn running crew isOpen keeps (follows answer) notForeign
        (sound.counts.forget runs) (by simp)
  | fail =>
      cases uses
      refine sound.goOn running crew isOpen keeps (follows answer) trivial
        (sound.counts.fail runs) ?_
      intro _
      rw [used_queue, if_pos rfl]
      rw [WorkQueue.Operation.run, Prod.mk.injEq] at runs
      rw [← runs.2]
      have scheduled := WorkQueue.isScheduled_addLater (sound.isOpen task.queue) roster.now
        task.key
      rw [(sound.counts task).fail_eq] at scheduled
      exact scheduled
  | astray => exact absurd fits.finds id

theorem Sound.step (sound : Sound reconciler driver policies roster)
    (step : Step reconciler driver roster later) : Sound reconciler driver policies later := by
  have crew := step_crew step sound.crew
  cases step with
  | wait later isLater =>
      refine ⟨crew, sound.isOpen, sound.counts, ?_⟩
      intro duty dutyMem
      exact sound.kept dutyMem isLater rfl fun _ _ _ => id
  | @operate name operation event queue outside runs =>
      rcases isUsual_of_isOutside outside with ⟨isUsual, isAside, _⟩
      refine ⟨crew, sound.isOpen_used isUsual runs,
        sound.counts.used_aside isUsual isAside runs, ?_⟩
      intro duty dutyMem
      rcases List.mem_append.mp dutyMem with begins | dutyBefore
      · rcases follows_of_begun begins with ⟨follows, unknown⟩
        exact ⟨.lookup, follows, unknown, by simp⟩
      · refine sound.kept dutyBefore (Nat.le_refl _) rfl ?_
        exact sound.keepsScheduled_used isUsual runs rfl rfl
  | expire name key due found =>
      refine ⟨crew, sound.isOpen_of_same rfl, sound.counts.of_same rfl, ?_⟩
      intro duty dutyMem
      exact sound.kept dutyMem (Nat.le_refl _) rfl (keepsScheduled_expire found)
  | deliver name key due expired =>
      have same := WorkQueue.sameRest_add (roster.usage name).queue key
      refine ⟨crew, sound.isOpen_of_same same.closed, sound.counts.of_same same.backoff, ?_⟩
      intro duty dutyMem
      exact sound.kept dutyMem (Nat.le_refl _) rfl (sound.keepsScheduled_deliver name key due)
  | answer before after answer running noUse named =>
      exact sound.answered answer running noUse named crew
  | use before after answer running uses runs =>
      exact sound.used answer running uses runs crew
  | @finish before after worker task result found event queue ended runs =>
      refine ⟨crew, sound.isOpen_used rfl runs,
        sound.counts.used_aside rfl (fun _ => rfl) runs, ?_⟩
      intro duty dutyMem
      have dutyBefore : duty ∈ roster.duties := by
        rw [ended]
        grind
      refine sound.kept dutyBefore (Nat.le_refl _) rfl ?_
      exact sound.keepsScheduled_used rfl runs rfl rfl

theorem Reaches.sound {now : Nat}
    (reaches : Reaches reconciler driver (initial policies now) roster) :
    Sound reconciler driver policies roster := by
  induction reaches with
  | refl => exact sound_initial now
  | tail _ step ih => exact ih.step step

/-- From the return of a sync that fails until the worker is done with the key, the key is scheduled
by the end of the delay that follows, or about to be added by a timer that was due by then; and at
any time the failures that are counted of a key are those of its syncs since the latest one that
settled, up to the greatest number. -/
theorem failed_isRetried_and_counted {now : Nat}
    (reaches : Reaches reconciler driver (initial policies now) roster) :
    (∀ duty ∈ roster.duties, ∀ failure, duty.job.rest = .done (.error failure) →
      roster.IsRetried policies duty.task) ∧
    ∀ task, (roster.usage task.queue).queue.failures task.key =
      min (failedSince (roster.outcomes task)) Retries.most := by
  have sound := reaches.sound
  constructor
  · intro duty dutyMem failure returned
    rcases sound.duties duty dutyMem with ⟨phase, follows, fits⟩
    rw [returned] at follows
    have fails : phase.fails := follows
    cases phase with
    | failed => exact fits.retried rfl
    | astray => exact absurd fits.finds id
    | lookup | gone | work | passedBy | settled => contradiction
  · intro task
    exact (sound.counts task).failures_eq

/-- A sync that is answered again and again returns. -/
theorem exists_returned (respond : (request : Request) → request.Answer)
    (named : ∀ request : Request, request.FindsNamed (respond request))
    (running : roster.duties = [⟨⟨worker, task, program⟩, found⟩]) :
    ∃ later foundLater, Reaches reconciler driver roster later ∧
      later.duties = [⟨⟨worker, task,
        .done (program.run (fun request _ => (respond request, ())) ()).1⟩, foundLater⟩] := by
  induction program generalizing roster found with
  | done result => exact ⟨roster, found, .refl, running⟩
  | ask request next ih =>
      have goesOn : ∃ answered foundLater, Step reconciler driver roster answered ∧
          answered.duties = [⟨⟨worker, task, next (respond request)⟩, foundLater⟩] := by
        cases uses : request.use? roster.now with
        | none =>
            exact ⟨_, _, .answer [] [] (respond request) running uses (named request), rfl⟩
        | some use => exact ⟨_, _, .use [] [] (respond request) running uses rfl, rfl⟩
      rcases goesOn with ⟨answered, _, step, runningOn⟩
      rcases ih (respond request) runningOn with ⟨later, foundLater, reaches, returned⟩
      exact ⟨later, foundLater, .head step reaches, returned⟩

open Simulation

/-- Nothing but the attachment of the small cluster is found, and no write is accepted. -/
def poorAnswer : (request : Request) → request.Answer
  | .attachment name => if name = "va-1" then some smallAttachment else none
  | .csiNode _ | .node _ | .volume _ => none
  | .attachments | .volumes => []
  | .secret _ _ => .ok none
  | .writeAttachment old _ | .writeStatus old _ => .error (.conflict old.name)
  | .writeVolume old _ => .error (.conflict old.name)
  | .call (.publish _) => Except.ok {}
  | .call (.unpublish _) => Except.ok {}
  | .call (.list _) => Except.ok {}
  | .currentTime => { seconds := 0, nanoseconds := 0 }
  | .enqueue _ _ | .retry _ _ | .forget _ _ => ()

theorem poorAnswer_findsNamed (request : Request) : request.FindsNamed (poorAnswer request) := by
  cases request with
  | attachment name =>
      intro attachment found
      change (if name = "va-1" then some smallAttachment else none) = some attachment at found
      by_cases same : name = "va-1"
      · rw [if_pos same] at found
        cases found
        exact same.symm
      · rw [if_neg same] at found
        contradiction
  | volume name => rintro volume ⟨⟩
  | _ => trivial

/-- A sync of an attachment fails if there is no volume of the name that it refers to. -/
theorem failed_isRetried_without_volume : ∃ roster duty failure,
    Reaches smallReconciler "csi.example.com" (initial (fun _ => ⟨1000, 4000⟩) 7) roster ∧
      duty ∈ roster.duties ∧ duty.job.rest = .done (.error failure) ∧
      roster.IsRetried (fun _ => ⟨1000, 4000⟩) duty.task ∧
      0 < (roster.usage duty.task.queue).queue.failures duty.task.key := by
  have begins : ∃ begun, Reaches smallReconciler "csi.example.com"
        (initial (fun _ => ⟨1000, 4000⟩) 7) begun ∧
      begun.duties = [⟨⟨1, ⟨.attachments, "va-1"⟩,
        ((smallReconciler.controller "csi.example.com").sync ⟨.attachments, "va-1"⟩).run⟩,
          none⟩] :=
    ⟨_, .tail (.single (.operate .attachments (.add "va-1") rfl rfl))
      (.operate .attachments (.take 1) rfl rfl), rfl⟩
  rcases begins with ⟨begun, reaches, running⟩
  rcases exists_returned poorAnswer poorAnswer_findsNamed running with
    ⟨roster, found, returns, returned⟩
  have dutyMem := returned ▸ List.mem_singleton_self _
  rcases failed_isRetried_and_counted (reaches.trans returns) with ⟨retried, counted⟩
  have isRetried := retried _ dutyMem _ rfl
  refine ⟨roster, _, _, reaches.trans returns, dutyMem, rfl, isRetried, ?_⟩
  rcases isRetried with ⟨earlier, latest, _⟩
  rw [counted, latest]
  exact Nat.lt_min.mpr ⟨Nat.succ_pos _, by decide⟩

end Roster

end VolumeAttacher.Reconcile
