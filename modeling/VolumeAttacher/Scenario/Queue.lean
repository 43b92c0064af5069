import VolumeAttacher.Scenario.Steps
import VolumeAttacher.Simulation.QueueRun

/-!
# Scenarios of a queue

One queue is used step by step, and workers may wait for its keys.
-/

namespace VolumeAttacher.Scenario

open Simulation (QueueRun)

def handoutJson : WorkQueue.Handout → Json
  | .key key => .ofMembers [("key", .text key)]
  | .ended => .ofMembers [("key", .null)]

/-- What a user got, if anything. -/
def pollJson (handout : Option WorkQueue.Handout) : Json :=
  (handout.map handoutJson).getD (.text "pending")

def handoutKeyJson : WorkQueue.Handout → Json
  | .key key => .text key
  | .ended => .null

def queueAction (run : QueueRun) (step : Json) : Option (Option Json × QueueRun) :=
  let key := step.textItem 1
  match step.textItem 0 with
  | "add" => some (none, run.act (·.add key))
  | "after" =>
      let delay := Duration.ofMillis (step.natItem 2)
      some (none, run.actLater key fun queue now => queue.addAfter now key delay)
  | "rl" => some (none, run.actLater key fun queue now => queue.addLater now key)
  | "forget" => some (none, run.act (·.forget key))
  | "done" => some (none, run.act (·.finish key))
  | "requeues" => some (some (.ofNat (run.queue.failures key)), run)
  | "get" =>
      let (handout, run) := run.poll
      some (some (pollJson handout), run)
  | "wait" =>
      let (handout, run) := run.await (Duration.ofMillis (step.natItem 1))
      some (some (pollJson handout), run)
  | "advance" => some (none, run.elapse (Duration.ofMillis (step.natItem 1)))
  | "shutdown" => some (none, run.act (·.close))
  | "worker" => some (none, run.startWorker key)
  | _ => none

/-- Takes a step and reports the queue after it. -/
def queueStep (run : QueueRun) (step : Json) : Option (Json × QueueRun) := do
  let (answer, run) ← queueAction run step
  let received := run.received.map fun entry => (entry.1, handoutKeyJson entry.2)
  let members :=
    [("len", Json.ofNat run.queue.size),
      ("t", .ofNat (Duration.wholeMillis run.agenda.now))]
      ++ (answer.map fun answer => ("r", answer)).toList
      ++ (if run.queue.closed then [("down", .bool true)] else [])
      ++ (if received.isEmpty then [] else [("workers", .ofMembers received)])
  return (.ofMembers members, { run with received := [] })

def ofQueue? (input : Json) : Option Json := do
  let policy : RetryPolicy :=
    ⟨Duration.ofMillis (input.natAt "start_ms"), Duration.ofMillis (input.natAt "max_ms")⟩
  let (answers, _) ← performSteps queueStep (QueueRun.initial policy) (input.itemsAt "steps")
  return .array answers

end VolumeAttacher.Scenario
