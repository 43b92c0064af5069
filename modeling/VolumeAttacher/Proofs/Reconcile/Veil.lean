import VolumeAttacher.Proofs.Cluster.Contents
import VolumeAttacher.Proofs.Program.Lockstep

/-!
# Times and secrets veiled

Requests and answers are seen through a veil: it hides what secrets contain, which secrets go with a
call to the driver, and the times in error records. Two actions are in lockstep if they cannot be
told apart through it, as long as what they are told is the same through it. Rules show this along
the parts of two actions.
-/

namespace VolumeAttacher

/-- The attachment with its errors without their times. -/
def VolumeAttachment.untimed (attachment : VolumeAttachment) : VolumeAttachment :=
  attachment.mapStatus AttachmentStatus.untimed

/-- The secret without what it contains. -/
def Secret.veiled (secret : Secret) : Secret :=
  { secret with data := none, stringData := none }

/-- The call without its secrets. -/
def Csi.Call.veiled : Csi.Call → Csi.Call
  | publish request => .publish { request with secrets := [] }
  | unpublish request => .unpublish { request with secrets := [] }
  | list request => .list request

/-- The likeness of calls: they may differ in their secrets, and the answers are the same. -/
def Csi.veil : Program.Likeness Csi.Call Csi.Call.Answer where
  requests call other := call.veiled = other.veiled
  answers _ _ answer answerOther := HEq answer answerOther

namespace Reconcile

/-- The request without the secrets of a call and the times in error records. -/
def Request.veiled : Request → Request
  | writeAttachment old new => .writeAttachment old.untimed new.untimed
  | writeStatus old new => .writeStatus old.untimed new.untimed
  | call driverCall => .call driverCall.veiled
  | request => request

/-- The answer without what a secret contains and the times in error records. The time of day is
hidden, too. -/
def Request.veilAnswer : (request : Request) → request.Answer → request.Answer
  | attachment _ => fun answer : Option VolumeAttachment => answer.map VolumeAttachment.untimed
  | attachments => fun answer : List VolumeAttachment => answer.map VolumeAttachment.untimed
  | secret _ _ => fun answer : Except Failure (Option Secret) =>
      answer.map (Option.map Secret.veiled)
  | writeAttachment _ _ => fun answer : Except Failure VolumeAttachment =>
      answer.map VolumeAttachment.untimed
  | writeStatus _ _ => fun answer : Except Failure VolumeAttachment =>
      answer.map VolumeAttachment.untimed
  | currentTime => fun _ => (⟨0, 0⟩ : Timestamp)
  | _ => id

/-- The likeness of what is the same through the veil. -/
def veil : Program.Likeness Request Request.Answer where
  requests request other := request.veiled = other.veiled
  answers request other answer answerOther :=
    HEq (request.veilAnswer answer) (other.veilAnswer answerOther)

namespace Action

variable {α β γ δ : Type} {ends : α → β → Prop} {action : Action α} {other : Action β}

/-- How two actions end alike: with results that fit each other, or with the same failure. -/
inductive EndsAlike (ends : α → β → Prop) : Except Failure α → Except Failure β → Prop
  | ok {result : α} {resultOther : β} (ended : ends result resultOther) :
      EndsAlike ends (.ok result) (.ok resultOther)
  | error (failure : Failure) : EndsAlike ends (.error failure) (.error failure)

/-- Whether two actions cannot be told apart through the veil and end with results that fit each
other, as long as what they are told is the same through the veil. -/
def Lockstep (ends : α → β → Prop) (action : Action α) (other : Action β) : Prop :=
  Program.Lockstep veil (EndsAlike ends) action.run other.run

theorem Lockstep.mono {weaker : α → β → Prop} (lockstep : Lockstep ends action other)
    (weakens : ∀ result resultOther, ends result resultOther → weaker result resultOther) :
    Lockstep weaker action other := by
  apply Program.Lockstep.mono lockstep
  intro _ _ ended
  cases ended with
  | ok ended => exact .ok (weakens _ _ ended)
  | error failure => exact .error failure

theorem lockstep_pure {result : α} {resultOther : β} (ended : ends result resultOther) :
    Lockstep ends (pure result) (pure resultOther) :=
  .done (.ok ended)

theorem lockstep_throw (failure : Failure) :
    Lockstep ends (throw failure : Action α) (throw failure : Action β) :=
  .done (.error failure)

theorem lockstep_ofExcept (result : Except Failure α) :
    Lockstep Eq (ofExcept result) (ofExcept result) := by
  cases result with
  | ok value => exact lockstep_pure rfl
  | error failure => exact lockstep_throw failure

/-- Both actions begin alike, and then go on alike with what they got. -/
theorem Lockstep.bind {wanted : γ → δ → Prop} {next : α → Action γ} {nextOther : β → Action δ}
    (lockstep : Lockstep ends action other)
    (goesOn : ∀ result resultOther, ends result resultOther →
      Lockstep wanted (next result) (nextOther resultOther)) :
    Lockstep wanted (action >>= next) (other >>= nextOther) := by
  apply Program.Lockstep.bind
  apply Program.Lockstep.mono lockstep
  intro _ _ ended
  cases ended with
  | ok ended => exact goesOn _ _ ended
  | error failure => exact lockstep_throw failure

theorem lockstep_outcome (lockstep : Lockstep ends action other) :
    Lockstep (EndsAlike ends) action.outcome other.outcome := by
  apply Program.Lockstep.bind
  apply Program.Lockstep.mono lockstep
  intro _ _ ended
  exact .done (.ok ended)

theorem lockstep_ite {condition : Prop} [Decidable condition] {otherwise : Action α}
    {otherwiseOther : Action β} (holds : condition → Lockstep ends action other)
    (fails : ¬condition → Lockstep ends otherwise otherwiseOther) :
    Lockstep ends (if condition then action else otherwise)
      (if condition then other else otherwiseOther) := by
  split
  next isSo => exact holds isSo
  next isNot => exact fails isNot

theorem lockstep_forM {fits : α → β → Prop} {items : List α} {itemsOther : List β}
    {work : α → Action Unit} {workOther : β → Action Unit}
    (alike : List.Forall₂ fits items itemsOther)
    (lockstep : ∀ item itemOther, fits item itemOther →
      Lockstep (fun _ _ => True) (work item) (workOther itemOther)) :
    Lockstep (fun _ _ => True) (items.forM work) (itemsOther.forM workOther) := by
  induction alike with
  | nil => exact lockstep_pure trivial
  | cons fits _ ih =>
      apply (lockstep _ _ fits).bind
      intro _ _ _
      exact ih

theorem lockstep_request (request requestOther : Request)
    (result : request.Answer → Except Failure α)
    (resultOther : requestOther.Answer → Except Failure β)
    (made : action.run = Program.ask request fun answer => Program.done (result answer))
    (madeOther : other.run =
      Program.ask requestOther fun answer => Program.done (resultOther answer))
    (alike : request.veiled = requestOther.veiled)
    (ended : ∀ answer answerOther,
      HEq (request.veilAnswer answer) (requestOther.veilAnswer answerOther) →
      EndsAlike ends (result answer) (resultOther answerOther)) :
    Lockstep ends action other := by
  unfold Lockstep
  rw [made, madeOther]
  refine .ask alike ?_
  intro answer answerOther answersAlike
  exact .done (ended answer answerOther answersAlike)

/-- A request of whose answer nothing is hidden. -/
theorem lockstep_ask (request : Request) (plain : request.veilAnswer = id) :
    Lockstep Eq (Action.ask request) (Action.ask request) := by
  apply lockstep_request request request .ok .ok rfl rfl rfl
  intro answer answerOther same
  rw [plain] at same
  exact .ok (eq_of_heq same)

theorem lockstep_enqueue (queue : QueueName) (key : String) :
    Lockstep (fun _ _ => True) (Action.enqueue queue key) (Action.enqueue queue key) :=
  (lockstep_ask (.enqueue queue key) rfl).mono fun _ _ _ => trivial

theorem lockstep_currentTime :
    Lockstep (fun _ _ => True) Action.currentTime Action.currentTime := by
  apply lockstep_request .currentTime .currentTime .ok .ok rfl rfl rfl
  intro _ _ _
  exact .ok trivial

theorem lockstep_attachments :
    Lockstep (fun attachments others =>
      attachments.map VolumeAttachment.untimed = others.map VolumeAttachment.untimed)
      Action.attachments Action.attachments := by
  apply lockstep_request .attachments .attachments .ok .ok rfl rfl rfl
  intro answer answerOther same
  exact .ok (eq_of_heq same)

theorem endsAlike_of_map_eq {veiling : α → γ} {veilingOther : β → γ} {result : Except Failure α}
    {resultOther : Except Failure β}
    (same : result.map veiling = resultOther.map veilingOther) :
    EndsAlike (fun value valueOther => veiling value = veilingOther valueOther) result
      resultOther := by
  cases result with
  | ok value =>
      cases resultOther with
      | ok valueOther => exact .ok (Except.ok.inj same)
      | error _ => contradiction
  | error failure =>
      cases resultOther with
      | ok _ => contradiction
      | error failureOther =>
          cases Except.error.inj same
          exact .error failure

theorem lockstep_secret? (space name : String) :
    Lockstep (fun secret other => secret.map Secret.veiled = other.map Secret.veiled)
      (Action.secret? space name) (Action.secret? space name) := by
  apply lockstep_request (.secret space name) (.secret space name) id id rfl rfl rfl
  intro answer answerOther same
  exact endsAlike_of_map_eq (eq_of_heq same)

variable {old new oldOther newOther : VolumeAttachment}

theorem lockstep_writeAttachment (oldAlike : old.untimed = oldOther.untimed)
    (newAlike : new.untimed = newOther.untimed) :
    Lockstep (fun stored storedOther => stored.untimed = storedOther.untimed)
      (Action.writeAttachment old new) (Action.writeAttachment oldOther newOther) := by
  apply lockstep_request (.writeAttachment old new) (.writeAttachment oldOther newOther) id id rfl
    rfl
  · exact congrArg₂ Request.writeAttachment oldAlike newAlike
  · intro answer answerOther same
    exact endsAlike_of_map_eq (eq_of_heq same)

theorem lockstep_writeStatus (oldAlike : old.untimed = oldOther.untimed)
    (newAlike : new.untimed = newOther.untimed) :
    Lockstep (fun stored storedOther => stored.untimed = storedOther.untimed)
      (Action.writeStatus old new) (Action.writeStatus oldOther newOther) := by
  apply lockstep_request (.writeStatus old new) (.writeStatus oldOther newOther) id id rfl rfl
  · exact congrArg₂ Request.writeStatus oldAlike newAlike
  · intro answer answerOther same
    exact endsAlike_of_map_eq (eq_of_heq same)

theorem lockstep_writeVolume (old new : PersistentVolume) :
    Lockstep Eq (Action.writeVolume old new) (Action.writeVolume old new) := by
  apply lockstep_request (.writeVolume old new) (.writeVolume old new) id id rfl rfl rfl
  intro answer answerOther same
  cases eq_of_heq same
  cases answer with
  | ok stored => exact .ok rfl
  | error failure => exact .error failure

/-- Calls to the driver, with their outcome as a value. -/
theorem lockstep_calls {ends : Except Csi.Error α → Except Csi.Error β → Prop}
    {calls : Csi.Calls α} {callsOther : Csi.Calls β}
    (lockstep : Program.Lockstep Csi.veil ends calls.run callsOther.run) :
    Lockstep ends (Action.calls calls) (Action.calls callsOther) := by
  apply Program.Lockstep.bind
  apply (lockstep.embed veil Request.call _ ?_ ?_).mono
  · intro _ _ ended
    exact .done (.ok ended)
  · intro call other alike
    exact congrArg Request.call alike
  · intro call other answer answerOther same
    exact same

end Action

end Reconcile

end VolumeAttacher
