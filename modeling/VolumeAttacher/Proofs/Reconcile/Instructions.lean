import VolumeAttacher.Proofs.Program.Expansion
import VolumeAttacher.Reconcile.Attachment

/-!
# Instructions to attach volumes

The work on an attachment asks for a volume to be attached, and only then it is checked whether the
driver can be called at all. In an `Instructed` action this is one instruction, and all else are the
requests of actions. The work on an attachment is given here with instructions; carried out, they
are the work itself.
-/

namespace VolumeAttacher.Reconcile

inductive Instruction where
  | make (request : Request)
  | attach (wanted : Csi.AttachRequest)

namespace Instruction

def Answer : Instruction → Type
  | make request => request.Answer
  | attach _ => Except Csi.Error (Table String)

def answerOf (request : Request) (answer : (make request).Answer) : request.Answer :=
  answer

/-- The requests by which an instruction is carried out. -/
def carriedOut : (instruction : Instruction) → Requests instruction.Answer
  | make request => Requests.make request
  | attach wanted => (Csi.attach wanted).run.embed Request.call fun _ answer => answer

end Instruction

/-- A program of instructions that may fail. -/
abbrev Instructed (α : Type) : Type :=
  ExceptT Failure (Program Instruction Instruction.Answer) α

namespace Instructed

variable {α β : Type}

/-- An action whose requests are the instructions. -/
def act (action : Action α) : Instructed α :=
  ExceptT.mk (action.run.embed Instruction.make Instruction.answerOf)

/-- Has a volume attached, with the outcome as a value. -/
def attach (wanted : Csi.AttachRequest) : Instructed (Except Csi.Error (Table String)) :=
  ExceptT.lift (Program.request (Instruction.attach wanted))

/-- The outcome as a value. -/
def outcome (instructed : Instructed α) : Instructed (Except Failure α) :=
  ExceptT.lift instructed.run

/-- The action by which the instructions are carried out. -/
def carriedOut (instructed : Instructed α) : Action α :=
  ExceptT.mk (instructed.run.expand Instruction.carriedOut)

theorem carriedOut_bind (instructed : Instructed α) (next : α → Instructed β) :
    (instructed >>= next).carriedOut =
      instructed.carriedOut >>= fun value => (next value).carriedOut := by
  change Program.expand _ (Program.bind _ _) = Program.bind (Program.expand _ _) _
  rw [Program.expand_bind]
  congr 1
  funext result
  cases result <;> rfl

theorem carriedOut_act (action : Action α) : (act action).carriedOut = action :=
  Program.expand_embed Instruction.make _ (fun _ => rfl) action.run

theorem carriedOut_attach (wanted : Csi.AttachRequest) :
    (attach wanted).carriedOut = Action.calls (Csi.attach wanted) :=
  rfl

theorem carriedOut_outcome (instructed : Instructed α) :
    instructed.outcome.carriedOut = instructed.carriedOut.outcome := by
  change Program.expand _ (Program.bind _ _) = Program.bind (Program.expand _ _) _
  rw [Program.expand_bind]
  rfl

theorem act_bind (action : Action α) (next : α → Action β) :
    act (action >>= next) = act action >>= fun value => act (next value) := by
  change Program.embed _ _ (Program.bind _ _) = Program.bind (Program.embed _ _ _) _
  rw [Program.embed_bind]
  congr 1
  funext result
  cases result <;> rfl

theorem act_outcome (action : Action α) : act action.outcome = (act action).outcome := by
  change Program.embed _ _ (Program.bind _ _) = Program.bind (Program.embed _ _ _) _
  rw [Program.embed_bind]
  rfl

end Instructed

namespace Reconciler

open Instructed

variable (reconciler : Reconciler)

/-- Attaches the volume of an attachment that is protected and not yet attached. -/
def publishInstructions (attachment : VolumeAttachment) (volume : PersistentVolume)
    (nodeId : Except Failure String) : Instructed Unit := do
  let wanted ← act (recording .attach attachment (reconciler.attachRequest volume nodeId))
  match ← Instructed.attach wanted with
  | .error error => act (failWith .attach attachment (.csi error))
  | .ok publishContext =>
      act do
        let _ ← Action.writeStatus attachment
          (attachment.withStatus (attachedStatus publishContext))

/-- Attaches the volume of an attachment. A volume of another driver is left alone. -/
def attachInstructions (attachment : VolumeAttachment) : Instructed Unit := do
  match attachment.volumeName? with
  | none => act (failWith .attach attachment (.invalidVolume (.noVolume attachment.name)))
  | some volumeName =>
      match ← act (Action.volume? volumeName) with
      | none => act (failWith .attach attachment (.notFound .persistentVolume volumeName))
      | some volume =>
          if !volume.isOwnedBy reconciler.driver then return ()
          else if volume.metadata.isDeleting then
            act (failWith .attach attachment (.invalidVolume (.deleting volumeName)))
          else
            act (recording .attach attachment (reconciler.protectVolume volume))
            let nodeId ← act (reconciler.nodeId attachment.spec.nodeName none)
            let attachment ← act (recording .attach attachment
              (reconciler.protectAttachment attachment nodeId))
            if attachment.isAttached then act (clearAttachError attachment)
            else reconciler.publishInstructions attachment volume nodeId

/-- Works on an attachment. Those addressed to other drivers are left alone. -/
def syncInstructions (attachment : VolumeAttachment) : Instructed Unit := do
  if reconciler.isAddressee attachment then
    act (requireQueues reconciler.ready)
    let worked ← outcome
      (if attachment.isDeleting then act (reconciler.detach attachment)
        else reconciler.attachInstructions attachment)
    match worked with
    | .ok () => act (Action.forget .attachments attachment.name)
    | .error failure =>
        act do
          Action.retry .attachments attachment.name
          throw failure

variable {reconciler}

theorem publishInstructions_carriedOut (attachment : VolumeAttachment) (volume : PersistentVolume)
    (nodeId : Except Failure String) :
    (reconciler.publishInstructions attachment volume nodeId).carriedOut =
      reconciler.publish attachment volume nodeId := by
  unfold publishInstructions publish
  rw [carriedOut_bind, carriedOut_act]
  congr 1
  funext wanted
  rw [carriedOut_bind, carriedOut_attach]
  congr 1
  funext answer
  cases answer <;> exact carriedOut_act _

theorem attachInstructions_carriedOut (attachment : VolumeAttachment) :
    (reconciler.attachInstructions attachment).carriedOut = reconciler.attach attachment := by
  unfold attachInstructions attach
  cases attachment.volumeName? with
  | none => exact carriedOut_act _
  | some volumeName =>
      dsimp only
      rw [carriedOut_bind, carriedOut_act]
      congr 1
      funext volume
      cases volume with
      | none => exact carriedOut_act _
      | some volume =>
          dsimp only
          split
          · rfl
          · split
            · exact carriedOut_act _
            · rw [carriedOut_bind, carriedOut_act]
              congr 1
              funext _
              rw [carriedOut_bind, carriedOut_act]
              congr 1
              funext nodeId
              rw [carriedOut_bind, carriedOut_act]
              congr 1
              funext copy
              split
              · exact carriedOut_act _
              · exact publishInstructions_carriedOut copy volume nodeId

theorem syncInstructions_carriedOut (attachment : VolumeAttachment) :
    (reconciler.syncInstructions attachment).carriedOut =
      reconciler.syncAttachment attachment := by
  unfold syncInstructions syncAttachment scheduling
  split
  · rw [carriedOut_bind, carriedOut_act]
    congr 1
    funext _
    rw [carriedOut_bind, carriedOut_outcome]
    congr 1
    · split
      · rw [carriedOut_act]
      · rw [attachInstructions_carriedOut]
    · funext worked
      cases worked <;> exact carriedOut_act _
  · rfl

end Reconciler

end VolumeAttacher.Reconcile
