import VolumeAttacher.Proofs.Program.Heeding
import VolumeAttacher.Proofs.Reconcile.Action

/-!
# Actions that heed what they are told

Rules that show, along the parts of an action, that it makes only requests that it may make. Only
the result of an action that does not fail is of interest, since what has been told before a failure
is still known after it.

The parts of the work on objects that find out names, secrets and what is published only glance at
things, whatever they are told: they change nothing, and do not say how the work has ended.
-/

namespace VolumeAttacher.Reconcile

/-- Whether a request says how the work on a key has ended. -/
def Request.isVerdict : Request → Bool
  | retry _ _ | forget _ _ => true
  | _ => false

/-- Whether a request changes neither an object nor what the driver publishes, and is no verdict. -/
def Request.isGlance (request : Request) : Bool :=
  request.isLook && !request.isVerdict

namespace Action

variable {α β : Type} {may : Request → Prop}
  {told : (request : Request) → request.Answer → Prop}

/-- Whether an action makes only requests that it may make, and if it does not fail ends with a
result that is wanted, as long as it is told nothing but what it may be told. -/
def Heeds (may : Request → Prop) (told : (request : Request) → request.Answer → Prop)
    (ends : α → Prop) (action : Action α) : Prop :=
  Program.Heeds may told (fun result => ∀ value, result = .ok value → ends value) action.run

theorem heeds_pure {ends : α → Prop} {value : α} (ended : ends value) :
    (pure value : Action α).Heeds may told ends := by
  rintro _ ⟨⟩
  exact ended

theorem heeds_throw {ends : α → Prop} (failure : Failure) :
    (throw failure : Action α).Heeds may told ends := by
  rintro _ ⟨⟩

theorem heeds_ofExcept (result : Except Failure α) :
    (ofExcept result).Heeds may told fun _ => True :=
  fun _ _ => trivial

theorem heeds_request {ends : α → Prop} (request : Request)
    (result : request.Answer → Except Failure α) {action : Action α}
    (made : action.run = Program.ask request fun answer => Program.done (result answer))
    (mayRequest : may request)
    (ended : ∀ answer value, told request answer → result answer = .ok value → ends value) :
    action.Heeds may told ends := by
  unfold Heeds
  rw [made]
  exact ⟨mayRequest, fun answer tells value => ended answer value tells⟩

theorem heeds_bind {ends : β → Prop} {action : Action α} {next : α → Action β}
    (heeds : action.Heeds may told fun value => (next value).Heeds may told ends) :
    (action >>= next).Heeds may told ends := by
  change Program.Heeds may told _ (Program.bind action.run _)
  rw [Program.heeds_bind]
  apply Program.Heeds.mono heeds (fun _ => id) (fun _ _ => id)
  intro result ended
  cases result with
  | ok value => exact ended value rfl
  | error failure => rintro _ ⟨⟩

theorem Heeds.mono {wider : Request → Prop}
    {narrower : (request : Request) → request.Answer → Prop} {ends weaker : α → Prop}
    {action : Action α} (heeds : action.Heeds may told ends)
    (widens : ∀ request, may request → wider request)
    (narrows : ∀ request answer, narrower request answer → told request answer)
    (weakens : ∀ value, ends value → weaker value) : action.Heeds wider narrower weaker :=
  Program.Heeds.mono heeds widens narrows fun _ ended value same =>
    weakens value (ended value same)

/-- Where what is done next heeds what it is told whatever has been found before. -/
theorem heeds_andThen {ends : β → Prop} {action : Action α} {next : α → Action β}
    (heeds : action.Heeds may told fun _ => True)
    (heedsNext : ∀ value, (next value).Heeds may told ends) :
    (action >>= next).Heeds may told ends :=
  heeds_bind (heeds.mono (fun _ => id) (fun _ _ => id) fun value _ => heedsNext value)

theorem heeds_outcome {ends : Except Failure α → Prop} {action : Action α}
    (heeds : action.Heeds may told fun value => ends (.ok value))
    (failed : ∀ failure, ends (.error failure)) : action.outcome.Heeds may told ends := by
  change Program.Heeds may told _ (Program.bind action.run _)
  rw [Program.heeds_bind]
  apply Program.Heeds.mono heeds (fun _ => id) (fun _ _ => id)
  rintro result ended _ ⟨⟩
  cases result with
  | ok value => exact ended value rfl
  | error failure => exact failed failure

theorem heeds_forM {items : List β} {work : β → Action Unit}
    (heeds : ∀ item ∈ items, (work item).Heeds may told fun _ => True) :
    Heeds may told (fun _ => True) (items.forM work) := by
  induction items with
  | nil => exact heeds_pure trivial
  | cons item items ih =>
      apply heeds_andThen (heeds item List.mem_cons_self)
      intro _
      exact ih fun other otherMem => heeds other (List.mem_cons_of_mem item otherMem)

/-- Calls to the driver. -/
theorem heeds_calls {calls : Csi.Calls α}
    (heeds : Program.Heeds (fun call => may (.call call)) (fun _ _ => True) (fun _ => True)
      calls.run) :
    (Action.calls calls).Heeds may told fun _ => True := by
  change Program.Heeds may told _ (Program.bind (calls.run.embed Request.call _) _)
  rw [Program.heeds_bind]
  apply (Program.heeds_embed Request.call _ heeds (fun _ => id) fun _ _ _ => trivial).mono
    (fun _ => id) (fun _ _ => id)
  intro _ _ _ _
  trivial

/-- Whether an action only glances at things, whatever it is told. -/
def Glances (action : Action α) : Prop :=
  action.Heeds (fun request => request.isGlance) (fun _ _ => True) fun _ => True

theorem Glances.heeds {action : Action α} (glances : action.Glances)
    (allowed : ∀ request : Request, request.isGlance → may request) :
    action.Heeds may told fun _ => True :=
  glances.mono allowed (fun _ _ _ => trivial) fun _ _ => trivial

theorem Glances.looks {action : Action α} (glances : action.Glances) : action.Looks := by
  have follows : Program.Follows (fun (_ : Unit) request _ => request.isLook) _ action.run () :=
    Program.Heeds.follows glances (fun _ _ => trivial) fun request isGlance =>
      (Bool.and_eq_true_iff.mp isGlance).1
  apply follows.mono
  intro result _ _
  cases result <;> trivial

theorem glances_request (request : Request) (result : request.Answer → Except Failure α)
    {action : Action α}
    (made : action.run = Program.ask request fun answer => Program.done (result answer))
    (isGlance : request.isGlance) : action.Glances :=
  heeds_request request result made isGlance fun _ _ _ _ => trivial

theorem glances_bind {action : Action α} {next : α → Action β} (glances : action.Glances)
    (glancesNext : ∀ value, (next value).Glances) : (action >>= next).Glances :=
  heeds_andThen glances glancesNext

theorem glances_forM {items : List β} {work : β → Action Unit}
    (glances : ∀ item, (work item).Glances) : Glances (items.forM work) :=
  heeds_forM fun item _ => glances item

theorem glances_ask {request : Request} (isGlance : request.isGlance) :
    (Action.ask request).Glances :=
  glances_request request .ok rfl isGlance

theorem secret?_glances (space name : String) : (secret? space name).Glances :=
  glances_request (.secret space name) id rfl rfl

end Action

open Reconcile.Action

namespace Reconciler

variable {reconciler : Reconciler}

theorem nodeId_glances (nodeName : String) (kept : Option String) :
    (reconciler.nodeId nodeName kept).Glances := by
  apply glances_bind (glances_ask rfl)
  intro registered
  split
  · exact heeds_pure trivial
  · apply glances_bind (glances_ask rfl)
    intro node
    dsimp only
    split <;> exact heeds_pure trivial

theorem secrets_glances (volume : PersistentVolume) : (secrets volume).Glances := by
  unfold secrets
  split
  · exact heeds_pure trivial
  · apply glances_bind (secret?_glances _ _)
    intro secret
    split
    · exact heeds_pure trivial
    · exact heeds_throw _

theorem attachRequest_glances (volume : PersistentVolume) (nodeId : Except Failure String) :
    (reconciler.attachRequest volume nodeId).Glances := by
  apply glances_bind (heeds_ofExcept nodeId)
  intro nodeId
  apply glances_bind (heeds_ofExcept _)
  rintro ⟨volumeId, readOnly⟩
  apply glances_bind (heeds_ofExcept _)
  intro capability
  apply glances_bind (secrets_glances volume)
  intro secrets
  exact heeds_pure trivial

theorem detachInputs_glances (volumeName : String) : (detachInputs volumeName).Glances := by
  apply glances_bind (glances_ask rfl)
  intro volume
  split
  · exact heeds_throw _
  · apply glances_bind (heeds_ofExcept _)
    rintro ⟨volumeId, readOnly⟩
    apply glances_bind (secrets_glances _)
    intro secrets
    exact heeds_pure trivial

theorem publication?_glances (attachment : VolumeAttachment) :
    (reconciler.publication? attachment).Glances := by
  unfold publication?
  split
  · exact heeds_pure trivial
  · apply glances_bind (glances_ask rfl)
    intro volume
    split
    · exact heeds_pure trivial
    · split
      · exact heeds_pure trivial
      · apply glances_bind (nodeId_glances _ _)
        intro nodeId
        split <;> exact heeds_pure trivial

theorem listVolumes_glances (maxEntries : Int32) (pageLimit : Nat) :
    (Action.calls (Csi.listVolumes maxEntries pageLimit)).Glances := by
  apply heeds_calls
  suffices ∀ (token : String) (published : Csi.PublishedVolumes),
      Program.Heeds (fun call => (Request.call call).isGlance) (fun _ _ => True) (fun _ => True)
        (Csi.listPages maxEntries pageLimit token published).run from this "" []
  induction pageLimit with
  | zero =>
      intro token published
      trivial
  | succ pages ih =>
      intro token published
      refine ⟨rfl, ?_⟩
      intro answer _
      cases answer with
      | error error => trivial
      | ok response =>
          change Program.Heeds _ _ _ (ExceptT.run (if response.nextToken.isEmpty then _ else _))
          split
          · trivial
          · exact ih _ _

end Reconciler

theorem enqueueAll_glances : enqueueAll.Glances := by
  apply glances_bind (glances_ask rfl)
  intro attachments
  apply glances_bind (glances_forM fun _ => glances_ask rfl)
  intro _
  apply glances_bind (glances_ask rfl)
  intro volumes
  exact glances_forM fun _ => glances_ask rfl

theorem requireQueues_glances (ready : Bool) : (requireQueues ready).Glances := by
  cases ready with
  | false => exact heeds_throw _
  | true => exact heeds_pure trivial

end VolumeAttacher.Reconcile
