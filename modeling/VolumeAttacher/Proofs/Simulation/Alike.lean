import VolumeAttacher.Proofs.Simulation.Shift

/-!
# The order of the line

Two runs are `Alike` if they differ at most in the order of their lines. Whatever is done to both
leaves them alike, as long as those who act are first in both lines. As everybody has one place, two
runs with the same queues are alike as soon as both lines have the intake or none has.
-/

namespace VolumeAttacher.Simulation

open Reconcile (QueueName Task)

namespace ControllerRun

variable {run later last : ControllerRun} {absent : List Actor}

/-- The changes that are not lost. -/
def heard (run : ControllerRun) (changes : List Event) : List Event :=
  changes.filter fun change => !run.closedStreams.contains change.stream

theorem tell_eq (run : ControllerRun) (changes : List Event) :
    run.tell changes = { run with
      changes := if run.hasEnded then run.changes else run.changes ++ run.heard changes
      line := if run.isRunning ∧ run.heard changes ≠ [] then (run.join [.intake]).line
        else run.line } := by
  have unfolded : run.tell changes =
      if run.hasEnded || (run.heard changes).isEmpty then run
      else if run.isRunning then
        { run with changes := run.changes ++ run.heard changes }.join [.intake]
      else { run with changes := run.changes ++ run.heard changes } := rfl
  rw [unfolded]
  generalize run.heard changes = heard
  rcases run with ⟨_, _, _, _, _, stage⟩
  cases stage <;> cases heard <;> simp [hasEnded, isRunning, join]

theorem tell_tell (run : ControllerRun) (earlier changes : List Event) :
    (run.tell earlier).tell changes = run.tell (earlier ++ changes) := by
  have both : run.heard (earlier ++ changes) = run.heard earlier ++ run.heard changes :=
    List.filter_append _ _
  have heard : (run.tell earlier).heard changes = run.heard changes := by rw [tell_eq]; rfl
  have ended : (run.tell earlier).hasEnded = run.hasEnded := by rw [tell_eq]; rfl
  have running : (run.tell earlier).isRunning = run.isRunning := by rw [tell_eq]; rfl
  rw [tell_eq (run.tell earlier), heard, ended, running, tell_eq run, tell_eq run, both]
  congr 1
  · dsimp only [join]
    split_ifs <;> simp_all
  · dsimp only
    split_ifs <;> simp

/-- Tells the intake of changes if it is watching. -/
def report (run : ControllerRun) (changes : List Event) : ControllerRun :=
  if run.watching then run.tell changes else run

theorem report_nil (run : ControllerRun) : run.report [] = run := by
  simp [report, tell]

theorem world_report (run : ControllerRun) (changes : List Event) :
    (run.report changes).world = run.world := by
  unfold report
  split
  · rw [tell_eq]
  · rfl

theorem report_report (run : ControllerRun) (earlier changes : List Event) :
    (run.report earlier).report changes = run.report (earlier ++ changes) := by
  cases watching : run.watching with
  | false => simp [report, watching]
  | true =>
      have stillWatching : (run.tell earlier).watching = true := by
        rw [tell_eq]
        exact watching
      simp only [report, watching, stillWatching, if_true]
      exact tell_tell run earlier changes

/-- Whether two runs are the same but for the order of their lines. -/
inductive Alike (run : ControllerRun) : ControllerRun → Prop
  | mk (line : List Actor) (perm : line.Perm run.line) : Alike run { run with line }

namespace Alike

theorem refl (run : ControllerRun) : Alike run run :=
  .mk run.line (.refl _)

theorem symm (alike : Alike run later) : Alike later run := by
  cases alike with
  | mk line perm => exact .mk run.line perm.symm

theorem trans (first : Alike run later) (second : Alike later last) : Alike run last := by
  cases first with
  | mk line perm =>
      cases second with
      | mk lastLine lastPerm => exact .mk lastLine (lastPerm.trans perm)

theorem world (alike : Alike run later) : later.world = run.world := by
  cases alike
  rfl

theorem stage (alike : Alike run later) : later.stage = run.stage := by
  cases alike
  rfl

theorem cancelled (alike : Alike run later) : later.cancelled = run.cancelled := by
  cases alike
  rfl

theorem controller (alike : Alike run later) : later.controller = run.controller := by
  cases alike
  rfl

theorem join (alike : Alike run later) (actors : List Actor) :
    Alike (run.join actors) (later.join actors) := by
  cases alike with
  | mk line perm =>
      refine .mk (line ++ actors.filter fun actor => !line.contains actor) ?_
      simp only [perm.contains_eq]
      exact perm.append_right _

theorem update (alike : Alike run later) (change : World → World) :
    Alike (run.update change) (later.update change) := by
  cases alike with
  | mk line perm =>
      have changed : Alike { run with world := change run.world }
          { run with world := change run.world, line } := .mk line perm
      exact (changed.join _).join _

theorem wakeIntake (alike : Alike run later) : Alike run.wakeIntake later.wakeIntake := by
  unfold ControllerRun.wakeIntake isRunning
  rw [alike.stage]
  split
  · exact alike.join _
  · exact alike

theorem tell (alike : Alike run later) (changes : List Event) :
    Alike (run.tell changes) (later.tell changes) := by
  cases alike with
  | mk line perm =>
      have joined := perm.append_right ([Actor.intake].filter fun actor => !run.line.contains actor)
      rw [tell_eq, tell_eq]
      refine .mk (if run.isRunning ∧ run.heard changes ≠ [] then
        ({ run with line }.join [.intake]).line else line) ?_
      dsimp only [ControllerRun.join]
      split
      · simpa only [perm.contains_eq] using joined
      · exact perm

theorem report (alike : Alike run later) (changes : List Event) :
    Alike (run.report changes) (later.report changes) := by
  have watching : later.watching = run.watching := by
    cases alike
    rfl
  unfold ControllerRun.report
  rw [watching]
  split
  · exact alike.tell changes
  · exact alike

theorem perform (alike : Alike run later) (action : Reconcile.Action Unit) :
    (later.perform action).1 = (run.perform action).1 ∧
      Alike (run.perform action).2 (later.perform action).2 := by
  unfold ControllerRun.perform
  rw [alike.world]
  exact ⟨rfl, (alike.update _).report _⟩

theorem finish (alike : Alike run later) (task : Task) (result : Except Failure Unit) :
    Alike (run.finish task result) (later.finish task result) := by
  cases alike with
  | mk line perm =>
      let metrics := run.metrics.increment (.ofReconcile task.queue.text result.isOk)
      have counted : Alike { run with metrics } { run with metrics, line } := .mk line perm
      exact counted.update fun world =>
        world.setQueue task.queue ((world.queue task.queue).finish task.key)

theorem work (alike : Alike run later) (task : Task) : Alike (run.work task) (later.work task) := by
  rw [work_eq, work_eq, alike.controller, (alike.perform _).1]
  exact (alike.perform _).2.finish task _

theorem addTasks (alike : Alike run later) (tasks : List Task) :
    Alike (run.addTasks tasks) (later.addTasks tasks) := by
  induction tasks generalizing run later with
  | nil => exact alike
  | cons task tasks ih => exact ih (alike.update _)

theorem close (alike : Alike run later) : Alike run.close later.close := by
  cases alike with
  | mk line perm =>
      let stage : RunStage := if run.allGone then .ended (.ok ()) else .stopping
      have staged : Alike { run with stage } { run with stage, line } := .mk line perm
      exact staged.update World.close

theorem leave (alike : Alike run later) : Alike run.leave later.leave := by
  cases alike with
  | mk line perm =>
      rw [leave_eq, leave_eq]
      exact .mk line perm

/-- Whoever is first in both lines leaves them. -/
theorem rest (alike : Alike run later) {actor : Actor} {others othersLater : List Actor}
    (head : run.line = actor :: others) (headLater : later.line = actor :: othersLater) :
    Alike run.rest later.rest := by
  cases alike with
  | mk line perm =>
      dsimp only at headLater
      refine .mk (line.drop 1) ?_
      rw [head, headLater] at perm
      rw [ControllerRun.rest, head, headLater]
      exact perm.cons_inv

theorem cancel (alike : Alike run later) : Alike run.cancel later.cancel := by
  cases alike with
  | mk line perm =>
      have cancelled : Alike { run with cancelled := true }
          { run with cancelled := true, line } := .mk line perm
      unfold ControllerRun.cancel
      dsimp only
      split
      · exact .mk line perm
      · exact cancelled.join _
      · exact cancelled
      · exact cancelled

theorem setTicker (alike : Alike run now) (alarm : Alarm) (period : Nat) :
    Alike (run.setTicker alarm period) (now.setTicker alarm period) := by
  cases alike with
  | mk line perm =>
      unfold ControllerRun.setTicker
      split
      · exact .mk line perm
      · exact .mk line perm

theorem resync (alike : Alike run now) : Alike run.resync now.resync := by
  unfold ControllerRun.resync
  rw [alike.world]
  exact alike.addTasks _

theorem closeStream (alike : Alike run now) (stream : QueueName) :
    Alike (run.closeStream stream) (now.closeStream stream) := by
  have closed : Alike { run with closedStreams := stream :: run.closedStreams }
      { now with closedStreams := stream :: now.closedStreams } := by
    cases alike with
    | mk line perm => exact .mk line perm
  exact closed.wakeIntake

theorem actIntake (alike : Alike run later) {others othersLater : List Actor}
    (head : run.line = .intake :: others) (headLater : later.line = .intake :: othersLater) :
    Alike run.actIntake later.actIntake := by
  have rested := alike.rest head headLater
  cases alike with
  | mk line perm =>
      rw [actIntake_eq, actIntake_eq]
      dsimp only
      split
      · exact rested.close
      · split
        · exact rested
        · have changed : Alike { run with changes := run.changes.tail }
              { run with changes := run.changes.tail, line } := .mk line perm
          exact changed.addTasks _

theorem exists_head_update {actor : Actor} {others : List Actor}
    (head : run.line = actor :: others) (change : World → World) :
    ∃ more, (run.update change).line = actor :: more := by
  have grows : run.line <+: (run.update change).line := prefix_update
  rcases grows with ⟨joined, same⟩
  refine ⟨others ++ joined, ?_⟩
  rw [← same, head, List.cons_append]

theorem actWorker (alike : Alike run later) {queue : QueueName} {number : Nat}
    {others othersLater : List Actor} (head : run.line = .worker queue number :: others)
    (headLater : later.line = .worker queue number :: othersLater) :
    Alike (run.actWorker queue number) (later.actWorker queue number) := by
  unfold ControllerRun.actWorker
  rw [alike.world]
  rcases (run.world.queue queue).retake number with ⟨handout, remaining⟩
  have updated := alike.update (·.setQueue queue remaining)
  have rested : Alike (run.withQueue queue remaining).rest
      (later.withQueue queue remaining).rest := by
    rcases exists_head_update head (·.setQueue queue remaining) with ⟨_, stillHead⟩
    rcases exists_head_update headLater (·.setQueue queue remaining) with ⟨_, stillHeadLater⟩
    exact updated.rest stillHead stillHeadLater
  rcases handout with _ | _ | _
  · exact rested
  · exact updated.work _
  · exact rested.leave

theorem act (alike : Alike run later) {actor : Actor} {others othersLater : List Actor}
    (head : run.line = actor :: others) (headLater : later.line = actor :: othersLater) :
    Alike run.act later.act := by
  unfold ControllerRun.act
  rw [head, headLater]
  cases actor with
  | intake => exact alike.actIntake head headLater
  | worker queue number => exact alike.actWorker head headLater

/-- Everybody's place, and whether the intake is in the line, say who is in the line. -/
theorem mem_line_of_seated {line : List Actor} (first : Seated absent run)
    (second : Seated absent { run with line }) {queue : QueueName} {number : Nat}
    (inLine : .worker queue number ∈ line) : .worker queue number ∈ run.line := by
  rcases (second.placed queue number).inLine inLine with ⟨inCrew, present, awake⟩
  rcases (first.placed queue number).somewhere inCrew with gone | within | waits
  · exact absurd gone present
  · exact within
  · exact absurd waits awake

theorem of_seated (line : List Actor) (first : Seated absent run)
    (second : Seated absent { run with line }) (intake : .intake ∈ line ↔ .intake ∈ run.line) :
    Alike run { run with line } := by
  refine .mk line ((List.perm_ext_iff_of_nodup second.lineNodup first.lineNodup).mpr ?_)
  intro actor
  cases actor with
  | intake => exact intake
  | worker queue number =>
      have again : Seated absent { ({ run with line } : ControllerRun) with line := run.line } :=
        first
      exact ⟨mem_line_of_seated first second, mem_line_of_seated second again⟩

end Alike

end ControllerRun

end VolumeAttacher.Simulation
