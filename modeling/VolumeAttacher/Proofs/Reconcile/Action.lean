import VolumeAttacher.Proofs.Program.Conduct
import VolumeAttacher.Reconcile.Attachment

/-!
# The conduct of actions

Rules that show, along the parts of an action, that it keeps to a discipline of requests. An action
may end in a result or in a failure, so there are two statements on the stage in which it ends.

An action that only looks at things stays in the stage in which it began, under every discipline
that allows looking there. Most of an action is of this sort, and `Action.Looks` takes it out of the
way.
-/

namespace VolumeAttacher.Reconcile

/-- Whether a request changes neither an object nor what the driver publishes. -/
def Request.isLook : Request → Bool
  | writeAttachment _ _ | writeStatus _ _ | writeVolume _ _ => false
  | call (.publish _) | call (.unpublish _) => false
  | _ => true

def Request.isPublish : Request → Bool
  | call (.publish _) => true
  | _ => false

/-- Whether a volume may be published after a request: a publish call that does not fail for good
may have published it, and after an unpublish call that succeeds or fails for good it is not
published. -/
def exposedAfter (exposed : Bool) : (request : Request) → request.Answer → Bool
  | .call (.publish _), .ok _ => true
  | .call (.publish _), .error error => exposed || !error.isFinal
  | .call (.unpublish _), .ok _ => false
  | .call (.unpublish _), .error error => exposed && !error.isFinal
  | _, _ => exposed

theorem exposed_of_unpublish {exposed : Bool} {request : Csi.UnpublishRequest}
    {answer : (Request.call (.unpublish request)).Answer}
    (exposedLater : exposedAfter exposed (.call (.unpublish request)) answer) : exposed := by
  cases answer with
  | ok response => contradiction
  | error error =>
      simp only [exposedAfter, Bool.and_eq_true] at exposedLater
      exact exposedLater.1

theorem exposedAfter_of_not_publish {request : Request} {exposed : Bool}
    (notPublish : request.isPublish = false) {answer : request.Answer}
    (exposedLater : exposedAfter exposed request answer) : exposed := by
  cases request with
  | call call =>
      cases call with
      | publish _ => contradiction
      | unpublish _ => exact exposed_of_unpublish exposedLater
      | list _ => exact exposedLater
  | attachment _ | attachments | volume _ | volumes | writeAttachment _ _ | writeStatus _ _
  | writeVolume _ _ | csiNode _ | node _ | secret _ _ | currentTime | enqueue _ _ | retry _ _
  | forget _ _ => exact exposedLater

theorem isPublish_of_isLook {request : Request} (isLook : request.isLook) :
    request.isPublish = false := by
  cases request with
  | call call =>
      cases call with
      | publish _ => contradiction
      | unpublish _ | list _ => rfl
  | attachment _ | attachments | volume _ | volumes | writeAttachment _ _ | writeStatus _ _
  | writeVolume _ _ | csiNode _ | node _ | secret _ _ | currentTime | enqueue _ _ | retry _ _
  | forget _ _ => rfl

namespace Action

variable {Stage α β : Type}
  {moves : Stage → (request : Request) → (request.Answer → Stage) → Prop}
  {ends : α → Stage → Prop} {fails : Failure → Stage → Prop} {stage : Stage}

/-- How an action may end: in a stage that fits its result or its failure. -/
def Ending (ends : α → Stage → Prop) (fails : Failure → Stage → Prop) :
    Except Failure α → Stage → Prop
  | .ok result, stage => ends result stage
  | .error failure, stage => fails failure stage

/-- Whether an action keeps to the moves of a discipline from a stage on, and ends in a stage that
fits its result or its failure. -/
def Follows (moves : Stage → (request : Request) → (request.Answer → Stage) → Prop)
    (ends : α → Stage → Prop) (fails : Failure → Stage → Prop) (action : Action α)
    (stage : Stage) : Prop :=
  Program.Follows moves (Ending ends fails) action.run stage

theorem follows_pure {result : α} (ended : ends result stage) :
    (pure result : Action α).Follows moves ends fails stage :=
  ended

theorem follows_throw {failure : Failure} (failed : fails failure stage) :
    (throw failure : Action α).Follows moves ends fails stage :=
  failed

theorem follows_request (request : Request) (result : request.Answer → Except Failure α)
    {action : Action α}
    (made : action.run = Program.ask request fun answer => Program.done (result answer))
    {later : request.Answer → Stage} (move : moves stage request later)
    (ending : ∀ answer, Ending ends fails (result answer) (later answer)) :
    action.Follows moves ends fails stage := by
  unfold Follows
  rw [made]
  exact ⟨later, move, ending⟩

theorem follows_bind {ends : β → Stage → Prop} {action : Action α} {next : α → Action β}
    (follows : action.Follows moves (fun result => (next result).Follows moves ends fails) fails
      stage) :
    (action >>= next).Follows moves ends fails stage := by
  change Program.Follows moves _ (Program.bind action.run _) stage
  rw [Program.follows_bind]
  apply Program.Follows.mono follows
  intro result stage ending
  cases result with
  | ok value => exact ending
  | error failure => exact ending

theorem Follows.mono {weaker : α → Stage → Prop} {failsWeaker : Failure → Stage → Prop}
    {action : Action α} (follows : action.Follows moves ends fails stage)
    (implies : ∀ result stage, ends result stage → weaker result stage)
    (failsImplies : ∀ failure stage, fails failure stage → failsWeaker failure stage) :
    action.Follows moves weaker failsWeaker stage := by
  apply Program.Follows.mono follows
  intro result stage ending
  cases result with
  | ok value => exact implies value stage ending
  | error failure => exact failsImplies failure stage ending

/-- Taking the outcome of an action as a value, nothing fails. -/
theorem follows_outcome {ends : Except Failure α → Stage → Prop} {action : Action α}
    (follows : action.Follows moves (fun result => ends (.ok result))
      (fun failure => ends (.error failure)) stage) :
    action.outcome.Follows moves ends fails stage := by
  change Program.Follows moves _ (Program.bind action.run _) stage
  rw [Program.follows_bind]
  apply Program.Follows.mono follows
  intro result stage ending
  cases result with
  | ok value => exact ending
  | error failure => exact ending

/-- Doing something with each item of a list keeps to a discipline from a stage to which it always
returns. -/
theorem follows_forM {items : List β} {work : β → Action Unit}
    (follows : ∀ item ∈ items,
      (work item).Follows moves (fun _ after => after = stage) (fun _ after => after = stage)
        stage) :
    Follows moves (fun _ after => after = stage) (fun _ after => after = stage)
      (items.forM work) stage := by
  induction items with
  | nil => exact follows_pure rfl
  | cons item items ih =>
      apply follows_bind
      apply (follows item List.mem_cons_self).mono
      · intro _ after same
        subst same
        exact ih fun other otherMem => follows other (List.mem_cons_of_mem item otherMem)
      · intro _ after same
        exact same

/-- Calls to the driver keep to a discipline, with their outcome as a value. -/
theorem follows_calls {ends : Except Csi.Error α → Stage → Prop} {calls : Csi.Calls α}
    (follows : Program.Follows (fun stage call later => moves stage (.call call) later) ends
      calls.run stage) :
    (Action.calls calls).Follows moves ends fails stage := by
  change Program.Follows moves _ (Program.bind (calls.run.embed Request.call _) _) stage
  rw [Program.follows_bind]
  exact Program.follows_embed Request.call _ follows fun _ _ _ => id

def Looks (action : Action α) : Prop :=
  action.Follows (fun (_ : Unit) request _ => request.isLook) (fun _ _ => True) (fun _ _ => True) ()

theorem looks_pure (result : α) : (pure result : Action α).Looks :=
  follows_pure trivial

theorem looks_throw (failure : Failure) : (throw failure : Action α).Looks :=
  follows_throw trivial

theorem looks_request (request : Request) (result : request.Answer → Except Failure α)
    {action : Action α}
    (made : action.run = Program.ask request fun answer => Program.done (result answer))
    (isLook : request.isLook) : action.Looks := by
  unfold Looks Follows
  rw [made]
  refine ⟨fun _ => (), isLook, ?_⟩
  intro answer
  rw [Program.follows_done]
  cases result answer with
  | ok value => trivial
  | error failure => trivial

theorem looks_ofExcept (result : Except Failure α) : (ofExcept result).Looks := by
  cases result with
  | ok value => exact looks_pure value
  | error failure => exact looks_throw failure

theorem Looks.follows {action : Action α} (looks : action.Looks)
    (allowed : ∀ request : Request, request.isLook → moves stage request fun _ => stage)
    (ended : ∀ result, ends result stage) (failed : ∀ failure, fails failure stage) :
    action.Follows moves ends fails stage := by
  unfold Looks at looks
  unfold Follows at looks ⊢
  generalize action.run = program at looks ⊢
  induction program with
  | done result =>
      cases result with
      | ok value => exact ended value
      | error failure => exact failed failure
  | ask request next ih =>
      rcases looks with ⟨later, isLook, rest⟩
      exact ⟨fun _ => stage, allowed request isLook, fun answer => ih answer (rest answer)⟩

end Action

end VolumeAttacher.Reconcile
