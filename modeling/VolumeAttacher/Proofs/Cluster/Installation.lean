import VolumeAttacher.Proofs.Cluster.Site
import VolumeAttacher.Proofs.Program.Requests
import VolumeAttacher.Queue.WorkQueue
import VolumeAttacher.Simulation.Script

/-!
# Installations

An `Installation` is an attacher at work while nothing else interferes: the site of its cluster, of
which the caches are the stored objects, the driver with the answers that it is going to give, and
the queues. Which writes of a status are refused, apart from those that were computed from an object
that has changed since, is settled beforehand, by the names of the attachments.
-/

namespace VolumeAttacher

namespace Table

theorem find?_of_nodup {α : Type} {table : Table α} {name : String} {value : α}
    (once : (names table).Nodup) (within : (name, value) ∈ table) :
    find? table name = some value := by
  induction table with
  | nil => contradiction
  | cons entry rest ih =>
      rcases entry with ⟨key, held⟩
      rcases List.nodup_cons.mp once with ⟨unused, onceRest⟩
      rw [find?_cons]
      rcases List.mem_cons.mp within with same | isRest
      · cases same
        exact if_pos rfl
      · rw [if_neg]
        · exact ih onceRest isRest
        · rintro rfl
          exact unused (List.mem_map.mpr ⟨_, isRest, rfl⟩)

theorem exists_find?_of_mem_names {α : Type} {table : Table α} {name : String}
    (mem : name ∈ names table) : ∃ value, find? table name = some value := by
  induction table with
  | nil => contradiction
  | cons entry rest ih =>
      rcases entry with ⟨key, held⟩
      rw [find?_cons]
      by_cases same : name = key
      · exact ⟨held, if_pos same⟩
      · rw [if_neg same]
        exact ih ((List.mem_cons.mp mem).resolve_left same)

end Table

namespace Reconcile

structure Installation where
  site : Site
  driver : Simulation.ScriptedDriver
  queue : QueueName → WorkQueue
  /-- The names of the attachments whose status was to be written. -/
  marks : List String

namespace Installation

/-- What is looked up in an installation. -/
def found? (installation : Installation) : (request : Request) → Option request.Answer
  | .csiNode name => some (installation.site.backdrop.csiNode name)
  | .node name => some (installation.site.backdrop.node name)
  | .volume name => some (Table.find? installation.site.volumes name)
  | .attachments => some (Table.values installation.site.attachments)
  | .volumes => some (Table.values installation.site.volumes)
  | _ => none

/-- An installation in which keys have been added to a queue, one after the other. -/
def addKeys (installation : Installation) (name : QueueName) (keys : List String) : Installation :=
  { installation with
    queue other := if other = name then keys.foldl WorkQueue.add (installation.queue other)
      else installation.queue other }

@[simp] theorem addKeys_nil (installation : Installation) (name : QueueName) :
    installation.addKeys name [] = installation := by
  simp [addKeys]

theorem addKeys_addKeys (installation : Installation) (name : QueueName)
    (first second : List String) :
    (installation.addKeys name first).addKeys name second =
      installation.addKeys name (first ++ second) := by
  simp only [addKeys, List.foldl_append, Installation.mk.injEq, true_and, and_true]
  funext other
  split <;> rfl

/-- What becomes of an installation whose driver is asked. -/
def answerCall (installation : Installation) (call : Csi.Call) : call.Answer × Installation :=
  ((installation.driver.answer call).1,
    { installation with driver := (installation.driver.answer call).2 })

/-- How a request may be answered in an installation, and the installation afterwards. Requests that
are no part of the upkeep may be answered in any way, and may change anything. -/
def Answered (refused : String → Prop) :
    (request : Request) → Installation → request.Answer → Installation → Prop
  | .csiNode name, before, answer, after =>
      answer = before.site.backdrop.csiNode name ∧ after = before
  | .node name, before, answer, after => answer = before.site.backdrop.node name ∧ after = before
  | .volume name, before, answer, after =>
      answer = Table.find? before.site.volumes name ∧ after = before
  | .attachments, before, answer, after =>
      answer = Table.values before.site.attachments ∧ after = before
  | .volumes, before, answer, after => answer = Table.values before.site.volumes ∧ after = before
  | .writeStatus old new, before, answer, after =>
      ∃ attachments,
        after = { before with
          site := { before.site with attachments }
          marks := old.name :: before.marks } ∧
        before.site.attachments.Written old.name old
          (fun stored => { stored with status := new.status }) answer attachments ∧
        Table.Grants (refused old.name) before.site.attachments old.name old answer ∧
        (refused old.name → ∃ failure, answer = .error failure)
  | .call call, before, answer, after => (answer, after) = before.answerCall call
  | .enqueue name key, before, _, after => after = before.addKeys name [key]
  | _, _, _, _ => True

variable {refused : String → Prop} {before after : Installation}

/-- Every request has some answer. -/
theorem exists_answered (request : Request) (before : Installation) :
    ∃ answer after, Answered refused request before answer after := by
  cases request with
  | csiNode _ | node _ | volume _ | attachments | volumes => exact ⟨_, before, rfl, rfl⟩
  | writeStatus old new =>
      by_cases isRefused : refused old.name
      · refine ⟨.error (.conflict old.name), _, before.site.attachments, rfl, .refused _, ?_, ?_⟩
        · exact fun _ _ => .inl isRefused
        · exact fun _ => ⟨_, rfl⟩
      · rcases Table.exists_written (refused old.name) before.site.attachments old.name old
            fun stored => { stored with status := new.status } with
            ⟨answer, attachments, written, -, grants⟩
        exact ⟨answer, _, attachments, rfl, written, grants,
          fun refuses => absurd refuses isRefused⟩
  | call call => exact ⟨_, _, rfl⟩
  | enqueue name key => exact ⟨(), _, rfl⟩
  | attachment _ => exact ⟨none, before, trivial⟩
  | secret _ _ => exact ⟨.ok none, before, trivial⟩
  | writeAttachment old _ => exact ⟨.ok old, before, trivial⟩
  | writeVolume old _ => exact ⟨.ok old, before, trivial⟩
  | currentTime => exact ⟨(⟨0, 0⟩ : Timestamp), before, trivial⟩
  | retry _ _ | forget _ _ => exact ⟨(), before, trivial⟩

theorem isFixed_found? (refused : String → Prop) (installation : Installation) :
    Program.IsFixed (Answered refused) installation.found? installation := by
  intro request answer found other after
  cases request with
  | csiNode | node | volume | attachments | volumes =>
      cases found
      exact Iff.rfl
  | attachment | secret | writeAttachment | writeStatus | writeVolume | call | currentTime
  | enqueue | retry | forget => contradiction

/-- An action that only looks something up ends in one way. -/
theorem eq_of_found? {α : Type} {action : Action α} {found result : Except Failure α}
    (finds : action.run.result? before.found? = some found)
    (ends : action.run.Ends (Answered refused) before result after) :
    result = found ∧ after = before := by
  rcases (Program.ends_iff_makes _).mp ends with ⟨requests, makes⟩
  rcases makes.of_result? (isFixed_found? refused before) finds with ⟨same, unchanged, -⟩
  exact ⟨same, unchanged⟩

/-- Calls to the driver end as they do with the driver alone. -/
theorem eq_of_embed {α : Type} {calls : Program Csi.Call Csi.Call.Answer α} {result : α}
    (ends : (calls.embed Request.call fun _ answer => answer).Ends (Answered refused) before result
      after) :
    result = (calls.run Simulation.ScriptedDriver.answer before.driver).1 ∧
      after = { before with
        driver := (calls.run Simulation.ScriptedDriver.answer before.driver).2 } := by
  induction calls generalizing before with
  | done value => exact ends
  | ask call next ih =>
      rcases ends with ⟨answer, middle, answers, rest⟩
      rcases Prod.mk.inj answers with ⟨rfl, rfl⟩
      exact ih _ rest

theorem eq_of_calls {α : Type} {calls : Csi.Calls α}
    {result : Except Failure (Except Csi.Error α)}
    (ends : (Action.calls calls).run.Ends (Answered refused) before result after) :
    result = .ok (calls.run.run Simulation.ScriptedDriver.answer before.driver).1 ∧
      after = { before with
        driver := (calls.run.run Simulation.ScriptedDriver.answer before.driver).2 } := by
  change Program.Ends _ (Program.bind (calls.run.embed Request.call _) _) before result after
    at ends
  rcases (Program.ends_bind _ _).mp ends with ⟨outcome, middle, endsCalls, rfl, rfl⟩
  rcases eq_of_embed endsCalls with ⟨rfl, same⟩
  exact ⟨rfl, same⟩

end Installation

end Reconcile

end VolumeAttacher
