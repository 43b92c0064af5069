import VolumeAttacher.Proofs.Simulation.Alike
import VolumeAttacher.Proofs.Simulation.Ending

/-!
# Runs that are carried out

When a run is carried out, whoever is at the head of the line acts without a break: a sync makes all
its requests, and only after that the workers that they have woken join the line and the changes
that they have made are told. In a `Shift` this happens after each request. The outcome is the same
but for the order of the line, in which a shift takes whoever comes.

So a run that is carried out goes through one of the courses of a shift, and what holds of all
shifts holds of it: it goes on until it is cancelled, and once it has been stopped it ends after
some acts.
-/

namespace VolumeAttacher.Simulation

open Relation
open Reconcile (QueueName Request Requests Task)

namespace World

/-- The world with changes that were made earlier and have not been told. -/
def withEarlier (world : World) (earlier : List Event) : World :=
  { world with events := earlier ++ world.events }

theorem queue_withEarlier (world : World) (earlier : List Event) (name : QueueName) :
    (world.withEarlier earlier).queue name = world.queue name := by
  cases name <;> rfl

theorem setQueue_withEarlier (world : World) (earlier : List Event) (name : QueueName)
    (queue : WorkQueue) :
    (world.withEarlier earlier).setQueue name queue =
      (world.setQueue name queue).withEarlier earlier := by
  cases name <;> rfl

/-- No answer depends on the changes that were made earlier. -/
theorem answer_withEarlier (request : Request) (world : World) (earlier : List Event) :
    answer request (world.withEarlier earlier) =
      ((answer request world).1, (answer request world).2.withEarlier earlier) := by
  cases request with
  | writeAttachment old new | writeStatus old new | writeVolume old new =>
      simp [answer, withEarlier, logWrite]
  | enqueue name key =>
      simp only [answer, enqueue, queue_withEarlier, setQueue_withEarlier]
  | retry name key =>
      simp only [answer, retry, queue_withEarlier, setQueue_withEarlier]
      rfl
  | forget name key =>
      simp only [answer, forget, queue_withEarlier, setQueue_withEarlier]
  | currentTime => simp only [answer, withEarlier, date]
  | _ => rfl

theorem run_withEarlier {α : Type} (program : Requests α) (world : World)
    (earlier : List Event) :
    program.run answer (world.withEarlier earlier) =
      ((program.run answer world).1, (program.run answer world).2.withEarlier earlier) := by
  induction program generalizing world with
  | done result => rfl
  | ask request next ih =>
      simp only [Program.run, answer_withEarlier]
      exact ih _ _

theorem events_setQueue (world : World) (name : QueueName) (queue : WorkQueue) :
    (world.setQueue name queue).events = world.events := by
  cases name <;> rfl

theorem stirs_run {α : Type} (program : Requests α) (world : World) (name : QueueName) :
    (world.queue name).Stirs ((program.run answer world).2.queue name) := by
  induction program generalizing world with
  | done result => exact .refl _
  | ask request next ih => exact (stirs_answer request world name).trans (ih _ _)

end World

namespace ControllerRun

variable {run later : ControllerRun} {absent : List Actor}

/-- The run in a world whose changes are told. -/
def inWorld (run : ControllerRun) (world : World) : ControllerRun :=
  run.update fun _ => { world with events := [] }

theorem respond_eq (run : ControllerRun) (request : Request) :
    run.respond request =
      ((World.answer request run.world).1,
        (run.inWorld (World.answer request run.world).2).report
          (World.answer request run.world).2.events) := rfl

theorem perform_eq (run : ControllerRun) (program : Requests (Except Failure Unit)) :
    run.perform (.mk program) =
      ((program.run World.answer run.world).1,
        (run.inWorld (program.run World.answer run.world).2).report
          (program.run World.answer run.world).2.events) := rfl

theorem queue_inWorld (run : ControllerRun) (world : World) (name : QueueName) :
    (run.inWorld world).world.queue name = world.queue name := by
  cases name <;> rfl

theorem Seated.inWorld {world : World} (seated : Seated absent run)
    (stirs : ∀ name, (run.world.queue name).Stirs (world.queue name)) :
    Seated absent (run.inWorld world) := by
  refine seated.update fun name => ?_
  have stirred := (stirs name).signal
  rw [← queue_inWorld run world] at stirred
  exact stirred

/-- Whoever is woken on the way is woken at the end. -/
theorem alike_inWorld_inWorld {first second : World} (seated : Seated absent run)
    (stirs : ∀ name, (run.world.queue name).Stirs (first.queue name))
    (stirsAgain : ∀ name, (first.queue name).Stirs (second.queue name)) :
    Alike (run.inWorld second) ((run.inWorld first).inWorld second) := by
  have direct : Seated absent (run.inWorld second) :=
    seated.inWorld fun name => (stirs name).trans (stirsAgain name)
  have onTheWay : Seated absent ((run.inWorld first).inWorld second) := by
    refine (seated.inWorld stirs).inWorld fun name => ?_
    rw [queue_inWorld]
    exact stirsAgain name
  refine .of_seated ((run.inWorld first).inWorld second).line direct onTheWay ?_
  exact ((intake_mem_update.trans intake_mem_update).trans intake_mem_update.symm)

theorem intake_mem_tell (run : ControllerRun) (changes : List Event) :
    .intake ∈ (run.tell changes).line ↔
      .intake ∈ run.line ∨ run.isRunning ∧ run.heard changes ≠ [] := by
  rw [tell_eq]
  dsimp only
  split
  next hears => simp [mem_join, hears]
  next deaf => simp [deaf]

/-- Telling the intake and waking workers can be exchanged. -/
theorem alike_tell_inWorld {world : World} (seated : Seated absent run)
    (stirs : ∀ name, (run.world.queue name).Stirs (world.queue name)) (changes : List Event) :
    Alike ((run.inWorld world).tell changes) ((run.tell changes).inWorld world) := by
  have told := keeps_tell run changes
  have sameWorld : (run.tell changes).world = run.world := by rw [tell_eq]
  have wokenFirst : Seated absent ((run.inWorld world).tell changes) :=
    (keeps_tell _ changes).seated (seated.inWorld stirs)
  have toldFirst : Seated absent ((run.tell changes).inWorld world) :=
    (told.seated seated).inWorld fun name => sameWorld ▸ stirs name
  have same : (run.tell changes).inWorld world =
      { (run.inWorld world).tell changes with
        line := ((run.tell changes).inWorld world).line } := by
    rw [tell_eq, tell_eq]
    rfl
  rw [same] at toldFirst ⊢
  refine .of_seated _ wokenFirst toldFirst ?_
  have wasInLine : .intake ∈ (run.inWorld world).line ↔ .intake ∈ run.line := intake_mem_update
  rw [intake_mem_tell, wasInLine]
  exact intake_mem_update.trans (intake_mem_tell run changes)

theorem alike_report_inWorld {world : World} (seated : Seated absent run)
    (stirs : ∀ name, (run.world.queue name).Stirs (world.queue name)) (changes : List Event) :
    Alike ((run.inWorld world).report changes) ((run.report changes).inWorld world) := by
  have watching : (run.inWorld world).watching = run.watching := rfl
  unfold report
  rw [watching]
  split
  · exact alike_tell_inWorld seated stirs changes
  · exact .refl _

/-- What a program asks first can be told before the rest of it is done. The rest is done as if the
first answer had changed nothing that is still to be told. -/
theorem perform_ask (seated : Seated absent run) (request : Request)
    (next : request.Answer → Requests (Except Failure Unit)) :
    (run.perform (.mk (.ask request next))).1 =
        ((run.respond request).2.perform (.mk (next (run.respond request).1))).1 ∧
      Alike (run.perform (.mk (.ask request next))).2
        ((run.respond request).2.perform (.mk (next (run.respond request).1))).2 := by
  have stirs (name : QueueName) := World.stirs_answer request run.world name
  rw [respond_eq, perform_eq, perform_eq]
  dsimp only [Program.run]
  generalize World.answer request run.world = answered at stirs ⊢
  rcases answered with ⟨answer, first⟩
  dsimp only at stirs ⊢
  rw [world_report]
  have apart : first = (run.inWorld first).world.withEarlier first.events := by
    simp [World.withEarlier, inWorld, update, joinWoken, join]
  have whole := World.run_withEarlier (next answer) (run.inWorld first).world first.events
  have stirsRest (name : QueueName) := World.stirs_run (next answer) (run.inWorld first).world name
  rw [← apart] at whole
  rw [whole]
  generalize (next answer).run World.answer (run.inWorld first).world = rest at stirsRest ⊢
  rcases rest with ⟨result, second⟩
  dsimp only at stirsRest ⊢
  refine ⟨rfl, ?_⟩
  show Alike ((run.inWorld second).report (first.events ++ second.events)) _
  rw [← report_report]
  have together : Alike (run.inWorld second) ((run.inWorld first).inWorld second) :=
    alike_inWorld_inWorld seated stirs fun name => by
      rw [← queue_inWorld run first name]
      exact stirsRest name
  have exchanged := alike_report_inWorld (seated.inWorld stirs) stirsRest first.events
  exact ((together.report _).trans exchanged).report _

theorem perform_done (seated : Seated absent run) (untold : run.world.events = [])
    (result : Except Failure Unit) : Alike (run.perform (.mk (.done result))).2 run := by
  have sameWorld : ({ run.world with events := [] } : World) = run.world := by rw [← untold]
  rw [perform_eq]
  dsimp only [Program.run]
  rw [untold, report_nil]
  have woken : Seated absent (run.inWorld run.world) := seated.inWorld fun _ => .refl _
  have same : run.inWorld run.world =
      { run with line := (run.inWorld run.world).line } := by
    unfold inWorld
    rw [sameWorld]
    rfl
  rw [same] at woken ⊢
  exact (Alike.of_seated _ seated woken intake_mem_update).symm

end ControllerRun

namespace Shift

open ControllerRun (Alike Seated)

variable {run : ControllerRun} {absent : List Actor}

theorem reaches_of_acts {shift later : Shift} (acts : ReflTransGen Acts shift later) :
    Reaches shift later :=
  ReflTransGen.mono (fun _ _ acts => .acts acts) _ _ acts

/-- A program that is done without a break goes one of the ways that it can go after each request,
wherever it stands among what is under way. -/
theorem reaches_perform (place : ControllerRun → Requests (Except Failure Unit) → Shift)
    (asks : ∀ (run : ControllerRun) (request : Request)
      (next : request.Answer → Requests (Except Failure Unit)),
      Acts (place run (.ask request next))
        (place (run.respond request).2 (next (run.respond request).1)))
    (seated : Seated absent run) (untold : run.world.events = [])
    (program : Requests (Except Failure Unit)) :
    ∃ later, ReflTransGen Acts (place run program)
        (place later (.done (run.perform (.mk program)).1)) ∧
      Alike (run.perform (.mk program)).2 later := by
  induction program generalizing run with
  | done result => exact ⟨run, .refl, ControllerRun.perform_done seated untold result⟩
  | ask request next ih =>
      have split := ControllerRun.perform_ask seated request next
      have untoldNext : (run.respond request).2.world.events = [] := by
        rw [ControllerRun.respond_eq]
        dsimp only
        rw [ControllerRun.world_report]
        rfl
      rcases ih (run.respond request).1 ((ControllerRun.keeps_respond run request).seated seated)
        untoldNext with ⟨later, course, alike⟩
      rw [split.1]
      exact ⟨later, .head (asks run request next) course, split.2.trans alike⟩

/-- What the actor at the head of the line does without a break. -/
theorem reaches_act {actor : Actor} {before after : List Actor} (seated : Seated absent run)
    (untold : run.world.events = []) (inLine : run.line = before ++ actor :: after) :
    ∃ later, TransGen Acts ⟨run, [], []⟩ ⟨later, [], []⟩ ∧
      Alike (run.withHead actor (before ++ after)).act later := by
  have keeps := ControllerRun.keeps_withHead inLine
  have seatedHead := keeps.seated seated
  cases actor with
  | intake => exact ⟨_, .single (.intake before after inLine), .refl _⟩
  | worker queue number =>
      have asks : Acts ⟨run, [], []⟩ _ := .worker before after inLine (by simp)
      generalize isHead : run.withHead (.worker queue number) (before ++ after) = head
        at seatedHead asks ⊢
      have first : head.line = .worker queue number :: (before ++ after) := isHead ▸ rfl
      have untoldHead : head.world.events = [] := isHead ▸ untold
      have asked := WorkQueue.asked_retake (head.world.queue queue)
        ((seatedHead.placed queue number).inLine (first ▸ List.mem_cons_self)).2.2
      have acts : head.act = head.actWorker queue number := by
        unfold ControllerRun.act
        rw [first]
      rw [acts]
      unfold ControllerRun.ask at asks
      unfold ControllerRun.actWorker
      generalize (head.world.queue queue).retake number = result at asks asked ⊢
      rcases result with ⟨_ | ⟨key⟩ | _, remaining⟩
      · exact ⟨_, .single asks, .refl _⟩
      · let task : Task := ⟨queue, key⟩
        have untoldLater : (head.withQueue queue remaining).world.events = [] :=
          (World.events_setQueue _ _ _).trans untoldHead
        rcases reaches_perform (fun run program => ⟨run, [⟨number, task, program⟩], []⟩)
          (fun _ _ _ => .sync [] []) (seatedHead.takes asked first (by simp)) untoldLater
          (head.controller.sync task).run with ⟨later, course, alike⟩
        have worked := (TransGen.head' asks course).tail (.finish [] [])
        exact ⟨_, worked, alike.finish task _⟩
      · exact ⟨_, .single asks, .refl _⟩

end Shift

namespace ControllerRun

/-- What happens to a run that is carried out. -/
inductive Move (run : ControllerRun) : ControllerRun → Prop
  | acts : Move run run.act
  | told (changes : List Event) : Move run (run.tell changes)
  | closedStream (stream : QueueName) : Move run (run.closeStream stream)
  | cancelled : Move run run.cancel
  | fired (due : Nat) (alarm : Alarm) : Move run (run.fire due alarm)
  | resynced : Move run run.resync
  | changed (world : World) (same : ∀ name, world.queue name = run.world.queue name)
      (events : world.events = run.world.events) : Move run { run with world }

abbrev Moves : ControllerRun → ControllerRun → Prop :=
  ReflTransGen Move

variable {run later now : ControllerRun} {absent : List Actor}

theorem moves_settleWithin (times : Nat) (run : ControllerRun) :
    run.Moves (run.settleWithin times) := by
  induction times generalizing run with
  | zero => exact .refl
  | succ times ih =>
      unfold settleWithin
      split
      · exact .refl
      · exact .head .acts (ih _)

theorem moves_settle (run : ControllerRun) : run.Moves run.settle :=
  moves_settleWithin _ run

theorem moves_fires (fired : List (Nat × Alarm)) (run : ControllerRun) :
    run.Moves (fired.foldl (fun run timer => run.fire timer.1 timer.2) run) := by
  induction fired generalizing run with
  | nil => exact .refl
  | cons timer fired ih => exact .head (.fired timer.1 timer.2) (ih _)

theorem moves_setAgenda (agenda : Agenda Alarm) (run : ControllerRun) :
    run.Moves { run with world := { run.world with agenda } } :=
  .single (.changed _ (World.queue_withAgenda run.world agenda) rfl)

/-- Time passes by moves. -/
theorem moves_elapse (run : ControllerRun) (duration : Nat) : run.Moves (run.elapse duration) := by
  unfold elapse Agenda.pass
  generalize run.world.agenda.now + duration = limit
  generalize Duration.wholeMillis (limit - run.world.agenda.now) + 1 = times
  induction times generalizing run with
  | zero => exact moves_setAgenda _ run
  | succ times ih =>
      unfold Agenda.pass.go
      split
      · exact moves_setAgenda _ run
      next fired rest _ =>
          have reacts := (moves_setAgenda rest run).trans
            ((moves_fires fired _).trans (moves_settle _))
          exact reacts.trans (ih _)

theorem events_addTasks (run : ControllerRun) (tasks : List Task) :
    (run.addTasks tasks).world.events = run.world.events := by
  induction tasks generalizing run with
  | nil => rfl
  | cons task tasks ih => exact (ih _).trans (World.events_setQueue _ _ _)

theorem events_perform (run : ControllerRun) (program : Requests (Except Failure Unit)) :
    (run.perform (.mk program)).2.world.events = [] := by
  rw [perform_eq]
  dsimp only
  rw [world_report]
  rfl

theorem untold_actWorker (untold : run.world.events = []) (queue : QueueName) (number : Nat) :
    (run.actWorker queue number).world.events = [] := by
  unfold actWorker
  rcases (run.world.queue queue).retake number with ⟨_ | ⟨key⟩ | _, remaining⟩
  · exact (World.events_setQueue _ _ _).trans untold
  · exact (World.events_setQueue _ _ _).trans (events_perform _ _)
  · dsimp only
    rw [leave_eq]
    exact (World.events_setQueue _ _ _).trans untold

theorem untold_act (untold : run.world.events = []) : run.act.world.events = [] := by
  unfold act
  split
  · exact untold
  · rw [actIntake_eq]
    split
    · exact untold
    · split
      · exact untold
      · exact (events_addTasks _ _).trans untold
  · exact untold_actWorker untold _ _

theorem events_setTicker (run : ControllerRun) (alarm : Alarm) (period : Nat) :
    (run.setTicker alarm period).world.events = run.world.events := by
  unfold setTicker
  split <;> rfl

theorem untold_fire (untold : run.world.events = []) (due : Nat) (alarm : Alarm) :
    (run.fire due alarm).world.events = [] := by
  cases alarm with
  | delayedAdd queue key => exact (World.events_setQueue _ _ _).trans untold
  | resync =>
      dsimp only [fire]
      split
      · exact (events_addTasks _ _).trans ((events_setTicker _ _ _).trans untold)
      · exact untold
  | reconcile =>
      dsimp only [fire]
      split
      · exact events_perform _ _
      · exact untold

/-- Whatever happens, all changes by the run are told at once. -/
theorem Move.untold (move : Move run later) (untold : run.world.events = []) :
    later.world.events = [] := by
  cases move with
  | acts => exact untold_act untold
  | told changes =>
      rw [tell_eq]
      exact untold
  | closedStream =>
      unfold closeStream wakeIntake
      split <;> exact untold
  | cancelled =>
      unfold cancel
      dsimp only
      split <;> exact untold
  | fired due alarm => exact untold_fire untold due alarm
  | resynced => exact (events_addTasks _ _).trans untold
  | changed _ _ events => exact events.trans untold

theorem meets_setTicker (run : ControllerRun) (alarm : Alarm) (period : Nat) :
    Shift.Meets ⟨run, [], []⟩ ⟨run.setTicker alarm period, [], []⟩ := by
  unfold setTicker
  split
  · exact .changed run.world fun _ => rfl
  · exact .changed _ (World.queue_withAgenda run.world _)

namespace Alike

/-- Whatever an actor does at the head of the line, it can do in a shift wherever it stands. -/
theorem exists_acts (alike : Alike run now) (seated : Seated absent now)
    (untold : now.world.events = []) {actor : Actor} {others : List Actor}
    (head : run.line = actor :: others) :
    ∃ later, TransGen Shift.Acts ⟨now, [], []⟩ ⟨later, [], []⟩ ∧ Alike run.act later := by
  have inLine : actor ∈ now.line := by
    cases alike with
    | mk line perm => exact perm.mem_iff.mpr (head ▸ List.mem_cons_self)
  rcases List.append_of_mem inLine with ⟨before, after, splits⟩
  have atHead : Alike now (now.withHead actor (before ++ after)) :=
    .mk _ (splits ▸ List.perm_middle.symm)
  rcases Shift.reaches_act seated untold splits with ⟨later, course, sameAct⟩
  exact ⟨later, course, ((alike.trans atHead).act head rfl).trans sameAct⟩

theorem exists_sweeps (alike : Alike run now) (seated : Seated absent now)
    (untold : now.world.events = []) (running : now.isRunning = true) :
    ∃ later, Shift.Reaches ⟨now, [], []⟩ ⟨later, [], []⟩ ∧ Alike run.reconcileAll later := by
  have begins : Shift.Step ⟨now, [], []⟩ _ := .meets (.swept running)
  rcases Shift.reaches_perform (fun run program => ⟨run, [], [program]⟩)
    (fun _ _ _ => .sweep [] []) seated untold now.controller.handler.reconcileAll.run
    with ⟨later, course, sameSweep⟩
  have swept := Shift.reaches_of_acts (course.tail (.finishSweep [] []))
  unfold ControllerRun.reconcileAll
  rw [← alike.controller]
  exact ⟨later, .head begins swept, (alike.perform _).2.trans sameSweep⟩

theorem exists_fires (alike : Alike run now) (seated : Seated absent now)
    (untold : now.world.events = []) (due : Nat) (alarm : Alarm) :
    ∃ later, Shift.Reaches ⟨now, [], []⟩ ⟨later, [], []⟩ ∧ Alike (run.fire due alarm) later := by
  have sets (alarm : Alarm) (period : Nat) : Shift.Reaches ⟨now, [], []⟩ _ :=
    .single (.meets (meets_setTicker now alarm period))
  cases alarm with
  | delayedAdd queue key =>
      exact ⟨_, .single (.meets (.fired due (.delayedAdd queue key))),
        alike.update (·.fire due (.delayedAdd queue key))⟩
  | resync =>
      dsimp only [fire]
      split
      · exact ⟨_, (sets .resync run.periods.resync).tail (.meets .resynced),
          (alike.setTicker _ _).resync⟩
      · exact ⟨now, .refl, alike⟩
  | reconcile =>
      dsimp only [fire]
      split
      next running =>
          have set := alike.setTicker .reconcile run.periods.reconcile
          have same := Shift.sameCourse_setTicker now .reconcile run.periods.reconcile
          have stillRunning : (now.setTicker .reconcile run.periods.reconcile).isRunning = true :=
            isRunning_iff.mpr (same.stage.trans (alike.stage.trans (isRunning_iff.mp running)))
          have untoldNow := (events_setTicker now .reconcile run.periods.reconcile).trans untold
          rcases set.exists_sweeps (same.keeps.seated seated) untoldNow stillRunning
            with ⟨later, sweeps, sameSweep⟩
          exact ⟨later, (sets _ _).trans sweeps, sameSweep⟩
      next => exact ⟨now, .refl, alike⟩

/-- Whatever happens to a run that is carried out can happen to a shift. -/
theorem follows (alike : Alike run now) (seated : Seated absent now)
    (untold : now.world.events = []) (move : Move run later) :
    ∃ next, Shift.Reaches ⟨now, [], []⟩ ⟨next, [], []⟩ ∧ Alike later next := by
  cases move with
  | acts =>
      cases head : run.line with
      | nil =>
          have idle : run.act = run := by
            unfold ControllerRun.act
            rw [head]
          rw [idle]
          exact ⟨now, .refl, alike⟩
      | cons actor others =>
          rcases alike.exists_acts seated untold head with ⟨next, course, sameAct⟩
          exact ⟨next, Shift.reaches_of_acts course.to_reflTransGen, sameAct⟩
  | told changes => exact ⟨_, .single (.meets (.told changes)), alike.tell changes⟩
  | closedStream stream =>
      exact ⟨_, .single (.meets (.closedStream stream)), alike.closeStream stream⟩
  | cancelled => exact ⟨_, .single (.meets .cancelled), alike.cancel⟩
  | fired due alarm => exact alike.exists_fires seated untold due alarm
  | resynced => exact ⟨_, .single (.meets .resynced), alike.resync⟩
  | changed world same events =>
      have sameNow (name : QueueName) : world.queue name = now.world.queue name :=
        alike.world ▸ same name
      refine ⟨_, .single (.meets (.changed world sameNow)), ?_⟩
      cases alike with
      | mk line perm => exact .mk line perm

end Alike

/-- A run that is carried out goes one of the courses of a shift. -/
theorem exists_shift (fresh : Shift.IsFresh run) (untold : run.world.events = [])
    (moves : run.start.Moves later) :
    later.world.events = [] ∧
      ∃ now, Shift.Reaches ⟨run.start, [], []⟩ ⟨now, [], []⟩ ∧ Alike later now := by
  induction moves with
  | refl =>
      refine ⟨?_, run.start, .refl, .refl _⟩
      exact (events_setTicker _ _ _).trans ((events_setTicker _ _ _).trans untold)
  | tail _ move ih =>
      rcases ih with ⟨untoldNow, now, reaches, alike⟩
      rcases reaches.sound fresh with ⟨absent, sound⟩
      rcases alike.follows sound.seated (alike.world ▸ untoldNow) move with ⟨next, onwards, same⟩
      exact ⟨move.untold untoldNow, next, reaches.trans onwards, same⟩

/-- A run that is carried out goes on, with open queues, as long as it is not cancelled. -/
theorem running_of_not_cancelled (fresh : Shift.IsFresh run) (untold : run.world.events = [])
    (moves : run.start.Moves later) (goesOn : later.cancelled = false) :
    later.stage = .running ∧ ∀ queue, (later.world.queue queue).closed = false := by
  rcases exists_shift fresh untold moves with ⟨_, now, reaches, alike⟩
  rcases reaches.sound fresh with ⟨absent, sound⟩
  rw [← alike.stage, ← alike.world]
  cases sound.phase with
  | running stage isOpen => exact ⟨stage, isOpen⟩
  | stopped cancelled => simp [alike.cancelled.trans goesOn] at cancelled

end ControllerRun

namespace Shift

open ControllerRun (Alike)

variable {run now : ControllerRun} {absent : List Actor} {shift later : Shift}

theorem Sound.isClosed_of_acts (sound : Sound absent shift) (closed : shift.IsClosed)
    (acts : ReflTransGen Acts shift later) : later.IsClosed := by
  induction acts with
  | refl => exact closed
  | tail acts act ih =>
      rcases sound.reached acts with ⟨_, soundThen⟩
      exact (act.isLess soundThen ih).2

/-- A cancelled run with nobody in its line has ended. -/
theorem Sound.hasEnded_of_idle (sound : Sound absent ⟨now, [], []⟩)
    (cancelled : now.cancelled = true) (idle : now.line = []) : HasEnded ⟨now, [], []⟩ := by
  by_contra goesOn
  rcases exists_acts sound cancelled goesOn with ⟨later, acts⟩
  generalize isShift : (⟨now, [], []⟩ : Shift) = shift at acts
  cases acts with
  | intake before after inLine =>
      cases isShift
      simp [idle] at inLine
  | worker before after inLine =>
      cases isShift
      simp [idle] at inLine
  | sync | finish | sweep | finishSweep => simp at isShift

/-- With closed queues the line is empty after some acts, and then the run has ended. Each act is at
least one of the shift, so that what is left of the shift gets less. -/
theorem Sound.exists_settled (sound : Sound absent ⟨now, [], []⟩)
    (cancelled : now.cancelled = true) (closed : IsClosed ⟨now, [], []⟩)
    (untold : now.world.events = []) (alike : Alike run now) :
    ∃ times, (run.settleWithin times).hasEnded = true := by
  have acc := (sound.acc closed).transGen
  generalize isShift : (⟨now, [], []⟩ : Shift) = shift at acc
  induction acc generalizing run now absent with
  | intro shift _ ih =>
      cases head : run.line with
      | nil =>
          have idle : now.line = [] := by
            cases alike with
            | mk line perm => exact (head ▸ perm).eq_nil
          have ended := (sound.hasEnded_of_idle cancelled idle).stage
          refine ⟨0, ?_⟩
          rw [ControllerRun.settleWithin, ControllerRun.hasEnded, ← alike.stage, ended]
      | cons actor others =>
          rcases alike.exists_acts sound.seated untold head with ⟨next, course, same⟩
          have acts := course.to_reflTransGen
          rcases sound.reached acts with ⟨_, soundNext⟩
          have untoldNext : next.world.events = [] :=
            same.world ▸ ControllerRun.untold_act (alike.world ▸ untold)
          rcases ih ⟨next, [], []⟩ (isShift ▸ transGen_swap.mpr course) soundNext
            ((cancelled_of_acts acts).trans cancelled) (sound.isClosed_of_acts closed acts)
            untoldNext same rfl with ⟨times, ended⟩
          refine ⟨times + 1, ?_⟩
          rw [ControllerRun.settleWithin, head]
          exact ended

end Shift

namespace ControllerRun

variable {run later : ControllerRun}

/-- A run that has been stopped ends after some acts. -/
theorem exists_settled_of_stopped (fresh : Shift.IsFresh run) (untold : run.world.events = [])
    (moves : run.start.Moves later) (stopped : later.stage ≠ .running) :
    ∃ times, (later.settleWithin times).hasEnded = true := by
  rcases exists_shift fresh untold moves with ⟨untoldLater, now, reaches, alike⟩
  rcases reaches.sound fresh with ⟨absent, sound⟩
  cases sound.phase with
  | running stage => exact absurd (alike.stage.symm.trans stage) stopped
  | stopped cancelled closed =>
      exact sound.exists_settled cancelled closed (alike.world ▸ untoldLater) alike

end ControllerRun

end VolumeAttacher.Simulation
