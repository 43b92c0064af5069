import VolumeAttacher.Proofs.Program.Logged
import VolumeAttacher.Proofs.Reconcile.Heeding
import VolumeAttacher.Proofs.Reconcile.Instructions
import VolumeAttacher.Proofs.Reconcile.Target

/-!
# The marks of the work on attachments

The work on an attachment is followed instruction by instruction, with a log. Of the log only the
marks count here: the accepted writes of objects and the instructions to attach. What only looks at
things or writes the status of the attachment leaves no marks. `AttachMarks` lists the courses of
attaching with their marks.
-/

namespace VolumeAttacher.Reconcile

variable {circumstances : Circumstances} {reconciler : Reconciler} {before after : Site}
  {attachment : VolumeAttachment} {volume : PersistentVolume}

/-- Whether a request leaves no mark, whatever the answer to it is. -/
def Request.isPassing : Request → Bool
  | writeAttachment _ _ | writeVolume _ _ => false
  | _ => true

/-- Whether an action makes only requests that leave no mark. -/
def Action.Passes {α : Type} (action : Action α) : Prop :=
  action.Heeds (fun request => request.isPassing) (fun _ _ => True) fun _ => True

namespace Instruction

/-- How an instruction may be answered in a site, and the site afterwards. -/
def Answered (circumstances : Circumstances) (instruction : Instruction) :
    Site → instruction.Answer → Site → Prop :=
  instruction.carriedOut.Ends (Site.Answered circumstances)

theorem answered_make {request : Request} {answer : request.Answer} :
    (make request).Answered circumstances before answer after ↔
      Site.Answered circumstances request before answer after := by
  constructor
  · rintro ⟨answer, middle, answered, rfl, rfl⟩
    exact answered
  · intro answered
    exact ⟨answer, after, answered, rfl, rfl⟩

def isAttach : Instruction → Bool
  | attach _ => true
  | make _ => false

def isPassing : Instruction → Bool
  | attach _ => false
  | make request => request.isPassing

/-- Whether an answer leaves a mark. -/
def isMarked : (instruction : Instruction) → instruction.Answer → Bool
  | attach _, _ => true
  | make (.writeAttachment _ _), .ok _ => true
  | make (.writeVolume _ _), .ok _ => true
  | make _, _ => false

theorem not_isMarked_of_isPassing {instruction : Instruction} (isPassing : instruction.isPassing)
    (answer : instruction.Answer) : instruction.isMarked answer = false := by
  cases instruction with
  | attach wanted => contradiction
  | make request =>
      cases request with
      | writeAttachment _ _ | writeVolume _ _ => contradiction
      | _ => rfl

end Instruction

/-- An instruction with its answer and the sites around it. -/
abbrev Deed : Type := Program.Exchange Instruction Instruction.Answer Site

def Deed.isMark (deed : Deed) : Bool :=
  deed.request.isMarked deed.answer

namespace Instructed

variable {α β : Type} {result : Except Failure α} {marks : List Deed}

/-- Whether instructions that begin in a site may end with a result in another one, and leave
marks. -/
def Ends (circumstances : Circumstances) (instructed : Instructed α) (before : Site)
    (marks : List Deed) (result : Except Failure α) (after : Site) : Prop :=
  ∃ log, instructed.run.Ends (Program.Logged (Instruction.Answered circumstances)) (before, [])
      result (after, log) ∧ log.filter Deed.isMark = marks

theorem pure_ends {value : α}
    (ends : (pure value : Instructed α).Ends circumstances before marks result after) :
    marks = [] ∧ result = .ok value ∧ after = before := by
  rcases ends with ⟨log, ⟨rfl, same⟩, rfl⟩
  cases same
  exact ⟨rfl, rfl, rfl⟩

theorem bind_ends {instructed : Instructed α} {next : α → Instructed β}
    {result : Except Failure β}
    (ends : (instructed >>= next).Ends circumstances before marks result after) :
    (∃ value middle first rest, marks = first ++ rest ∧
        instructed.Ends circumstances before first (.ok value) middle ∧
        (next value).Ends circumstances middle rest result after) ∨
      ∃ failure, instructed.Ends circumstances before marks (.error failure) after ∧
        result = .error failure := by
  rcases ends with ⟨log, ends, rfl⟩
  change Program.Ends _ (Program.bind instructed.run _) _ _ _ at ends
  rcases Program.ends_logged_bind.mp ends with
    ⟨outcome, middle, first, rest, rfl, endsFirst, endsNext⟩
  cases outcome with
  | ok value =>
      exact .inl ⟨value, middle, _, _, List.filter_append first rest, ⟨first, endsFirst, rfl⟩,
        ⟨rest, endsNext, rfl⟩⟩
  | error failure =>
      rcases endsNext with ⟨rfl, same⟩
      cases same
      exact .inr ⟨failure, ⟨first, endsFirst, by simp⟩, rfl⟩

theorem outcome_ends {instructed : Instructed α} {result : Except Failure (Except Failure α)}
    (ends : instructed.outcome.Ends circumstances before marks result after) :
    ∃ outcome, instructed.Ends circumstances before marks outcome after ∧ result = .ok outcome := by
  rcases ends with ⟨log, ends, rfl⟩
  change Program.Ends _ (Program.bind instructed.run _) _ _ _ at ends
  rcases Program.ends_logged_bind.mp ends with
    ⟨outcome, middle, first, rest, rfl, endsFirst, rfl, same⟩
  cases same
  exact ⟨outcome, ⟨first, endsFirst, by simp⟩, rfl⟩

theorem attach_marks {wanted : Csi.AttachRequest}
    {result : Except Failure (Except Csi.Error (Table String))}
    (ends : (Instructed.attach wanted).Ends circumstances before marks result after) :
    ∃ answer, result = .ok answer ∧ marks = [⟨before, .attach wanted, answer, after⟩] := by
  rcases ends with ⟨log, ends, rfl⟩
  rcases Program.ends_logged_ask.mp ends with ⟨answer, middle, _, rfl, same⟩
  cases same
  exact ⟨answer, rfl, rfl⟩

/-- What an action does as instructions it does. -/
theorem act_ends {action : Action α}
    (ends : (act action).Ends circumstances before marks result after) :
    action.Ends circumstances before result after := by
  rcases ends with ⟨log, ends, _⟩
  have carriedOut : (Instructed.carriedOut (act action)).Ends circumstances before result after :=
    (Program.ends_expand _).mpr ends.unlogged
  rw [carriedOut_act] at carriedOut
  exact carriedOut

theorem act_logged (may : Instruction → Prop) {mayMake : Request → Prop}
    {wanted : Except Failure α → Prop} {action : Action α} {log : List Deed}
    (heeds : Program.Heeds mayMake (fun _ _ => True) wanted action.run)
    (mays : ∀ request, mayMake request → may (.make request))
    (ends : (act action).run.Ends (Program.Logged (Instruction.Answered circumstances))
      (before, []) result (after, log)) :
    ∀ deed ∈ log, may deed.request := by
  have heedsToo : Program.Heeds may (fun _ _ => True) wanted (act action).run :=
    Program.heeds_embed Instruction.make Instruction.answerOf heeds mays fun _ _ => id
  exact heedsToo.logged ends

theorem act_unmarked {action : Action α} (passes : action.Passes)
    (ends : (act action).Ends circumstances before marks result after) : marks = [] := by
  rcases ends with ⟨log, ends, rfl⟩
  have passing : ∀ deed ∈ log, deed.request.isPassing = true :=
    act_logged (fun instruction => instruction.isPassing) passes (fun _ => id) ends
  apply List.filter_eq_nil_iff.mpr
  intro deed deedMem
  simp [Deed.isMark, Instruction.not_isMarked_of_isPassing (passing deed deedMem)]

/-- No action has a volume attached. -/
theorem act_not_isAttach {action : Action α}
    (ends : (act action).Ends circumstances before marks result after) :
    ∀ deed ∈ marks, deed.request.isAttach = false := by
  rcases ends with ⟨log, ends, rfl⟩
  have makes : ∀ deed ∈ log, deed.request.isAttach = false :=
    act_logged (fun instruction => instruction.isAttach = false)
      (Program.heeds_anything action.run) (fun _ _ => rfl) ends
  exact fun deed deedMem => makes deed (List.mem_filter.mp deedMem).1

theorem act_write (request : Request) (outcome : request.Answer → Except Failure α)
    {action : Action α}
    (made : action.run = Program.ask request fun answer => Program.done (outcome answer))
    (ends : (act action).Ends circumstances before marks result after) :
    ∃ answer, result = outcome answer ∧ Site.Answered circumstances request before answer after ∧
      marks = [(⟨before, .make request, answer, after⟩ : Deed)].filter Deed.isMark := by
  rcases ends with ⟨log, ends, rfl⟩
  change Program.Ends _ (Program.embed Instruction.make Instruction.answerOf action.run) _ _ _
    at ends
  rw [made] at ends
  rcases Program.ends_logged_ask.mp ends with ⟨answer, middle, answered, rfl, same⟩
  cases same
  exact ⟨answer, rfl, Instruction.answered_make.mp answered, rfl⟩

end Instructed

open Instructed

theorem Action.Glances.passes {α : Type} {action : Action α} (glances : action.Glances) :
    action.Passes := by
  apply glances.heeds
  intro request isGlance
  cases request with
  | writeAttachment _ _ | writeVolume _ _ => contradiction
  | _ => rfl

theorem ask_passes {request : Request} (isPassing : request.isPassing) :
    (Action.ask request).Passes :=
  Action.heeds_request request .ok rfl isPassing fun _ _ _ _ => trivial

theorem writeStatus_passes {old new : VolumeAttachment} : (Action.writeStatus old new).Passes :=
  Action.heeds_request (.writeStatus old new) id rfl rfl fun _ _ _ _ => trivial

theorem failWith_passes {α : Type} {operation : Operation} {failure : Failure} :
    (failWith operation attachment failure : Action α).Passes := by
  have record_passes : (record operation attachment failure).Passes := by
    unfold record
    apply Action.heeds_andThen (ask_passes (rfl : Request.currentTime.isPassing = true))
    intro time
    apply Action.heeds_bind
    apply Action.heeds_outcome
    · exact writeStatus_passes.mono (fun _ => id) (fun _ _ => id) fun _ _ =>
        Action.heeds_pure trivial
    · intro _
      exact Action.heeds_pure trivial
  exact Action.heeds_andThen record_passes fun _ => Action.heeds_throw failure

theorem clearAttachError_passes : (Reconciler.clearAttachError attachment).Passes := by
  unfold Reconciler.clearAttachError
  split
  · exact Action.heeds_andThen writeStatus_passes fun _ => Action.heeds_pure trivial
  · exact Action.heeds_pure trivial

/-- Recording a failure leaves no marks. -/
theorem act_recording_ends {α : Type} {operation : Operation} {action : Action α}
    {result : Except Failure α} {marks : List Deed}
    (ends : (act (recording operation attachment action)).Ends circumstances before marks result
      after) :
    (∃ value, result = .ok value ∧ (act action).Ends circumstances before marks (.ok value) after) ∨
      ∃ failure middle, result = .error failure ∧
        (act action).Ends circumstances before marks (.error failure) middle := by
  unfold recording at ends
  rw [act_bind, act_outcome] at ends
  rcases bind_ends ends with ⟨outcome, middle, first, rest, rfl, worked, ends⟩ | ⟨_, worked, _⟩
  · rcases outcome_ends worked with ⟨same, worked, isOutcome⟩
    cases isOutcome
    cases outcome with
    | ok value =>
        rcases pure_ends ends with ⟨rfl, rfl, rfl⟩
        exact .inl ⟨value, rfl, by simpa using worked⟩
    | error failure =>
        rcases failWith_ends (act_ends ends) with ⟨rfl, _⟩
        rw [act_unmarked failWith_passes ends]
        exact .inr ⟨failure, middle, rfl, by simpa using worked⟩
  · rcases outcome_ends worked with ⟨_, _, same⟩
    contradiction

theorem act_recording_bind_ends {α β : Type} {operation : Operation} {action : Action α}
    {next : α → Instructed β} {result : Except Failure β} {marks : List Deed}
    (ends : (act (recording operation attachment action) >>= next).Ends circumstances before marks
      result after) :
    (∃ value middle first rest, marks = first ++ rest ∧
        (act action).Ends circumstances before first (.ok value) middle ∧
        (next value).Ends circumstances middle rest result after) ∨
      ∃ failure middle, (act action).Ends circumstances before marks (.error failure) middle := by
  rcases bind_ends ends with
    ⟨value, middle, first, rest, rfl, recorded, goesOn⟩ | ⟨failure, recorded, _⟩
  · rcases act_recording_ends recorded with ⟨_, same, acted⟩ | ⟨_, _, same, _⟩
    · cases same
      exact .inl ⟨value, middle, first, rest, rfl, acted, goesOn⟩
    · contradiction
  · rcases act_recording_ends recorded with ⟨_, same, _⟩ | ⟨failure, middle, _, acted⟩
    · contradiction
    · exact .inr ⟨failure, middle, acted⟩

/-- What goes on with what has been found. -/
theorem look_bind_ends {α β : Type} {action : Action α} {next : α → Instructed β}
    {found : Except Failure α} {result : Except Failure β} {marks : List Deed}
    (glances : action.Glances)
    (looks : ∀ result after, action.Ends circumstances before result after ↔
      result = found ∧ after = before)
    (ends : (act action >>= next).Ends circumstances before marks result after) :
    (∃ value, found = .ok value ∧ (next value).Ends circumstances before marks result after) ∨
      ∃ failure, found = .error failure ∧ marks = [] := by
  rcases bind_ends ends with
    ⟨value, middle, first, rest, rfl, looked, goesOn⟩ | ⟨failure, looked, _⟩
  · rcases (looks _ _).mp (act_ends looked) with ⟨rfl, rfl⟩
    rw [act_unmarked glances.passes looked]
    exact .inl ⟨value, rfl, goesOn⟩
  · rcases (looks _ _).mp (act_ends looked) with ⟨rfl, rfl⟩
    exact .inr ⟨failure, rfl, act_unmarked glances.passes looked⟩

/-- Whether the finalizer is put on a volume, unless it is there already. -/
inductive Shields (circumstances : Circumstances) (reconciler : Reconciler)
    (volume : PersistentVolume) (before : Site) : List Deed → Site → Prop
  | carried (carries : volume.metadata.hasFinalizer reconciler.finalizer = true) :
      Shields circumstances reconciler volume before [] before
  | written {stored : PersistentVolume} {after : Site}
      (lacks : volume.metadata.hasFinalizer reconciler.finalizer = false)
      (answered : Site.Answered circumstances (.writeVolume volume (reconciler.shielded volume))
        before (.ok stored : Except Failure PersistentVolume) after) :
      Shields circumstances reconciler volume before
        [⟨before, .make (.writeVolume volume (reconciler.shielded volume)),
          (.ok stored : Except Failure PersistentVolume), after⟩] after

theorem protectVolume_ends {result : Except Failure Unit} {marks : List Deed}
    (ends : (act (reconciler.protectVolume volume)).Ends circumstances before marks result after) :
    (∃ failure, result = .error failure ∧ marks = [] ∧
        volume.metadata.hasFinalizer reconciler.finalizer = false) ∨
      result = .ok () ∧ Shields circumstances reconciler volume before marks after := by
  unfold Reconciler.protectVolume at ends
  split at ends
  next lacks =>
      have lacks : volume.metadata.hasFinalizer reconciler.finalizer = false := by
        simpa using lacks
      have written {outcome : Except Failure PersistentVolume} {marks : List Deed}
          {middle : Site}
          (ends : (act (Action.writeVolume volume (reconciler.shielded volume))).Ends circumstances
            before marks outcome middle) :=
        act_write (.writeVolume volume (reconciler.shielded volume)) id rfl ends
      rw [act_bind] at ends
      rcases bind_ends ends with
        ⟨stored, middle, first, rest, rfl, writes, ends⟩ | ⟨failure, writes, rfl⟩
      · rcases pure_ends ends with ⟨rfl, rfl, rfl⟩
        rcases written writes with ⟨_, rfl, answered, rfl⟩
        exact .inr ⟨rfl, .written lacks answered⟩
      · rcases written writes with ⟨_, rfl, _, rfl⟩
        exact .inl ⟨failure, rfl, rfl, lacks⟩
  next carries =>
      rcases pure_ends ends with ⟨rfl, rfl, rfl⟩
      exact .inr ⟨rfl, .carried (by simpa using carries)⟩

/-- Whether the finalizer is put on an attachment, unless it is there already. -/
inductive Guards (circumstances : Circumstances) (reconciler : Reconciler)
    (attachment : VolumeAttachment) (nodeId : Except Failure String) (before : Site) :
    List Deed → VolumeAttachment → Site → Prop
  | carried (carries : attachment.metadata.hasFinalizer reconciler.finalizer = true) :
      Guards circumstances reconciler attachment nodeId before [] attachment before
  | written {stored : VolumeAttachment} {after : Site}
      (lacks : attachment.metadata.hasFinalizer reconciler.finalizer = false)
      (answered : Site.Answered circumstances
        (.writeAttachment attachment (reconciler.protectedAttachment attachment nodeId)) before
        (.ok stored : Except Failure VolumeAttachment) after) :
      Guards circumstances reconciler attachment nodeId before
        [⟨before,
          .make (.writeAttachment attachment (reconciler.protectedAttachment attachment nodeId)),
          (.ok stored : Except Failure VolumeAttachment), after⟩] stored after

theorem protectAttachment_ends {nodeId : Except Failure String}
    {result : Except Failure VolumeAttachment} {marks : List Deed}
    (ends : (act (reconciler.protectAttachment attachment nodeId)).Ends circumstances before marks
      result after) :
    (∃ failure, result = .error failure ∧ marks = [] ∧
        attachment.metadata.hasFinalizer reconciler.finalizer = false) ∨
      ∃ copy, result = .ok copy ∧
        Guards circumstances reconciler attachment nodeId before marks copy after := by
  unfold Reconciler.protectAttachment at ends
  split at ends
  next carries =>
      rcases pure_ends ends with ⟨rfl, rfl, rfl⟩
      exact .inr ⟨attachment, rfl, .carried carries⟩
  next lacks =>
      have lacks : attachment.metadata.hasFinalizer reconciler.finalizer = false := by
        simpa using lacks
      rcases act_write (.writeAttachment attachment
        (reconciler.protectedAttachment attachment nodeId)) id rfl ends with ⟨_, rfl, answered, rfl⟩
      cases result with
      | ok stored => exact .inr ⟨stored, rfl, .written lacks answered⟩
      | error failure => exact .inl ⟨failure, rfl, rfl, lacks⟩

/-- The marks that attaching the volume of an attachment may leave. -/
inductive AttachMarks (circumstances : Circumstances) (reconciler : Reconciler)
    (attachment : VolumeAttachment) (before : Site) : List Deed → Prop
  | unengaged (unengaged : ∀ volumeName volume,
      ¬ Engages reconciler attachment volumeName volume before) :
      AttachMarks circumstances reconciler attachment before []
  | unshielded {volumeName : String} {volume : PersistentVolume}
      (engages : Engages reconciler attachment volumeName volume before)
      (lacks : volume.metadata.hasFinalizer reconciler.finalizer = false) :
      AttachMarks circumstances reconciler attachment before []
  | unguarded {volumeName : String} {volume : PersistentVolume} {shieldMarks : List Deed}
      {shielded : Site} (engages : Engages reconciler attachment volumeName volume before)
      (shields : Shields circumstances reconciler volume before shieldMarks shielded)
      (lacks : attachment.metadata.hasFinalizer reconciler.finalizer = false) :
      AttachMarks circumstances reconciler attachment before shieldMarks
  | attached {volumeName : String} {volume : PersistentVolume}
      {shieldMarks guardMarks : List Deed} {shielded guarded : Site} {copy : VolumeAttachment}
      (engages : Engages reconciler attachment volumeName volume before)
      (shields : Shields circumstances reconciler volume before shieldMarks shielded)
      (guards : Guards circumstances reconciler attachment
        (shielded.backdrop.nodeId reconciler attachment.spec.nodeName none) shielded guardMarks copy
        guarded)
      (attached : copy.isAttached = true) :
      AttachMarks circumstances reconciler attachment before (shieldMarks ++ guardMarks)
  | unprepared {volumeName : String} {volume : PersistentVolume}
      {shieldMarks guardMarks : List Deed} {shielded guarded : Site} {copy : VolumeAttachment}
      {failure : Failure} (engages : Engages reconciler attachment volumeName volume before)
      (shields : Shields circumstances reconciler volume before shieldMarks shielded)
      (guards : Guards circumstances reconciler attachment
        (shielded.backdrop.nodeId reconciler attachment.spec.nodeName none) shielded guardMarks copy
        guarded)
      (unprepared : guarded.backdrop.attachRequest reconciler volume
        (shielded.backdrop.nodeId reconciler attachment.spec.nodeName none) = .error failure) :
      AttachMarks circumstances reconciler attachment before (shieldMarks ++ guardMarks)
  | wanted {volumeName : String} {volume : PersistentVolume}
      {shieldMarks guardMarks : List Deed} {shielded guarded later : Site} {copy : VolumeAttachment}
      {wanted : Csi.AttachRequest} {answer : (Instruction.attach wanted).Answer}
      (engages : Engages reconciler attachment volumeName volume before)
      (shields : Shields circumstances reconciler volume before shieldMarks shielded)
      (guards : Guards circumstances reconciler attachment
        (shielded.backdrop.nodeId reconciler attachment.spec.nodeName none) shielded guardMarks copy
        guarded)
      (notAttached : copy.isAttached = false)
      (prepared : guarded.backdrop.attachRequest reconciler volume
        (shielded.backdrop.nodeId reconciler attachment.spec.nodeName none) = .ok wanted) :
      AttachMarks circumstances reconciler attachment before
        (shieldMarks ++ (guardMarks ++ [⟨guarded, .attach wanted, answer, later⟩]))

theorem publishInstructions_ends {nodeId : Except Failure String} {result : Except Failure Unit}
    {marks : List Deed}
    (ends : (reconciler.publishInstructions attachment volume nodeId).Ends circumstances before
      marks result after) :
    (∃ failure, before.backdrop.attachRequest reconciler volume nodeId = .error failure ∧
        marks = []) ∨
      ∃ wanted answer later, before.backdrop.attachRequest reconciler volume nodeId = .ok wanted ∧
        marks = [⟨before, .attach wanted, answer, later⟩] := by
  have looked {result : Except Failure Csi.AttachRequest} {marks : List Deed} {middle : Site}
      (ends : (act (reconciler.attachRequest volume nodeId)).Ends circumstances before marks result
        middle) :
      marks = [] ∧ result = before.backdrop.attachRequest reconciler volume nodeId ∧
        middle = before :=
    ⟨act_unmarked (Reconciler.attachRequest_glances volume nodeId).passes ends,
      (attachRequest_ends volume nodeId).mp (act_ends ends)⟩
  unfold Reconciler.publishInstructions at ends
  rcases act_recording_bind_ends ends with
    ⟨wanted, middle, first, rest, rfl, prepares, attaches⟩ | ⟨failure, _, prepares⟩
  · rcases looked prepares with ⟨rfl, isWanted, rfl⟩
    rcases bind_ends attaches with
      ⟨answer, later, first, rest, rfl, asks, concludes⟩ | ⟨failure, asks, _⟩
    · rcases attach_marks asks with ⟨_, same, rfl⟩
      cases same
      have unmarked : rest = [] := by
        cases answer with
        | error error => exact act_unmarked failWith_passes concludes
        | ok publishContext =>
            refine act_unmarked (Action.heeds_andThen writeStatus_passes ?_) concludes
            intro _
            exact Action.heeds_pure trivial
      subst unmarked
      exact .inr ⟨wanted, answer, later, isWanted.symm, rfl⟩
    · rcases attach_marks asks with ⟨_, same, _⟩
      contradiction
  · rcases looked prepares with ⟨rfl, isFailure, _⟩
    exact .inl ⟨failure, isFailure.symm, rfl⟩

/-- The marks of the work on a volume that is engaged. -/
theorem engaged_ends {volumeName : String} {result : Except Failure Unit} {marks : List Deed}
    (engages : Engages reconciler attachment volumeName volume before)
    (ends : Instructed.Ends circumstances (do
      act (recording .attach attachment (reconciler.protectVolume volume))
      let nodeId ← act (reconciler.nodeId attachment.spec.nodeName none)
      let attachment ← act (recording .attach attachment
        (reconciler.protectAttachment attachment nodeId))
      if attachment.isAttached then act (Reconciler.clearAttachError attachment)
      else reconciler.publishInstructions attachment volume nodeId) before marks result after) :
    AttachMarks circumstances reconciler attachment before marks := by
  rcases act_recording_bind_ends ends with
    ⟨_, shielded, shieldMarks, rest, rfl, shield, guardAndPublish⟩ | ⟨_, _, shield⟩
  · rcases protectVolume_ends shield with ⟨_, same, _⟩ | ⟨_, shields⟩
    · contradiction
    · rcases look_bind_ends (Reconciler.nodeId_glances _ _) (fun _ _ => nodeId_ends _ _)
        guardAndPublish with ⟨nodeId, same, guardAndPublish⟩ | ⟨_, same, _⟩
      · cases same
        rcases act_recording_bind_ends guardAndPublish with
          ⟨copy, guarded, guardMarks, rest, rfl, guard, publish⟩ | ⟨_, _, guard⟩
        · rcases protectAttachment_ends guard with ⟨_, same, _⟩ | ⟨_, same, guards⟩
          · contradiction
          · cases same
            split at publish
            next attached =>
                rw [act_unmarked clearAttachError_passes publish, List.append_nil]
                exact .attached engages shields guards attached
            next notAttached =>
                rcases publishInstructions_ends publish with
                  ⟨_, unprepared, rfl⟩ | ⟨wanted, answer, later, prepared, rfl⟩
                · rw [List.append_nil]
                  exact .unprepared engages shields guards unprepared
                · exact .wanted engages shields guards (by simpa using notAttached) prepared
        · rcases protectAttachment_ends guard with ⟨_, _, rfl, lacks⟩ | ⟨_, same, _⟩
          · rw [List.append_nil]
            exact .unguarded engages shields lacks
          · contradiction
      · contradiction
  · rcases protectVolume_ends shield with ⟨_, _, rfl, lacks⟩ | ⟨same, _⟩
    · exact .unshielded engages lacks
    · contradiction

theorem attachInstructions_ends {result : Except Failure Unit} {marks : List Deed}
    (ends : (reconciler.attachInstructions attachment).Ends circumstances before marks result
      after) :
    AttachMarks circumstances reconciler attachment before marks := by
  have unmarked {failure : Failure} {marks : List Deed}
      (ends : (act (failWith .attach attachment failure : Action Unit)).Ends circumstances before
        marks result after) : marks = [] := act_unmarked failWith_passes ends
  unfold Reconciler.attachInstructions at ends
  cases named : attachment.volumeName? with
  | none =>
      rw [named] at ends
      rw [unmarked ends]
      refine .unengaged ?_
      intro volumeName volume engages
      cases named.symm.trans engages.named
  | some volumeName =>
      rw [named] at ends
      rcases look_bind_ends (Action.glances_ask rfl) (fun _ _ => Action.ends_volume? volumeName)
        ends with ⟨found, same, ends⟩ | ⟨_, same, _⟩
      · have isFound : Table.find? before.volumes volumeName = found := Except.ok.inj same
        have engagesOnly {name : String} {volume : PersistentVolume}
            (engages : Engages reconciler attachment name volume before) : found = some volume := by
          cases named.symm.trans engages.named
          exact isFound.symm.trans engages.found
        cases found with
        | none =>
            rw [unmarked ends]
            refine .unengaged ?_
            intro volumeName volume engages
            cases engagesOnly engages
        | some volume =>
            dsimp only at ends
            split at ends
            next foreign =>
                rcases pure_ends ends with ⟨rfl, _⟩
                refine .unengaged ?_
                intro volumeName volume engages
                cases engagesOnly engages
                simp [engages.owned] at foreign
            next owned =>
                split at ends
                next deleting =>
                    rw [unmarked ends]
                    refine .unengaged ?_
                    intro volumeName volume engages
                    cases engagesOnly engages
                    simp [engages.notDeleting] at deleting
                next notDeleting =>
                    exact engaged_ends ⟨named, isFound, by simpa using owned,
                      by simpa using notDeleting⟩ ends
      · contradiction

/-- The work on an attachment leaves the marks of attaching, or it is not to attach anything. -/
theorem syncInstructions_ends {result : Except Failure Unit} {marks : List Deed}
    (ends : (reconciler.syncInstructions attachment).Ends circumstances before marks result
      after) :
    reconciler.ready = true ∧ reconciler.isAddressee attachment = true ∧
        attachment.isDeleting = false ∧
        AttachMarks circumstances reconciler attachment before marks ∨
      (reconciler.ready = true → reconciler.isAddressee attachment = true →
        attachment.isDeleting = true) ∧ ∀ deed ∈ marks, deed.request.isAttach = false := by
  unfold Reconciler.syncInstructions at ends
  split at ends
  next addressee =>
      have required (result : Except Failure Unit) (after : Site) :
          (requireQueues reconciler.ready).Ends circumstances before result after ↔
            result = (if reconciler.ready then .ok () else .error (.settings .notReady)) ∧
              after = before := by
        cases reconciler.ready <;> rfl
      rcases look_bind_ends (requireQueues_glances _) required ends with
        ⟨_, same, ends⟩ | ⟨_, same, rfl⟩
      · have ready : reconciler.ready = true := by
          by_contra notReady
          simp [notReady] at same
        rcases bind_ends ends with
          ⟨worked, middle, first, rest, rfl, works, verdict⟩ | ⟨_, works, _⟩
        · rcases outcome_ends works with ⟨_, works, same⟩
          cases same
          have unmarked : rest = [] := by
            cases worked with
            | ok _ => exact act_unmarked (ask_passes rfl) verdict
            | error failure =>
                refine act_unmarked (Action.heeds_andThen (ask_passes rfl) ?_) verdict
                intro _
                exact Action.heeds_throw failure
          rw [unmarked, List.append_nil]
          split at works
          next deleting => exact .inr ⟨fun _ _ => deleting, act_not_isAttach works⟩
          next notDeleting =>
              exact .inl ⟨ready, addressee, by simpa using notDeleting,
                attachInstructions_ends works⟩
        · rcases outcome_ends works with ⟨_, _, same⟩
          contradiction
      · have notReady : reconciler.ready = false := by
          cases ready : reconciler.ready with
          | false => rfl
          | true => simp [ready] at same
        exact .inr ⟨fun ready => absurd (notReady.symm.trans ready) Bool.false_ne_true, by simp⟩
  next foreign =>
      rcases pure_ends ends with ⟨rfl, _⟩
      exact .inr ⟨fun _ addressee => absurd addressee foreign, by simp⟩

end VolumeAttacher.Reconcile
