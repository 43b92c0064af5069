import VolumeAttacher.Proofs.Reconcile.Survey

/-!
# Attachments that are marked while a sweep runs

Syncs run beside a sweep, and they may have volumes published and mark their attachments as attached
at any time. Once the attachments have been read, the versions of objects protect whatever is marked
from then on: the sweep's write is refused. But an attachment that is marked as attached after the
first page was asked for and before the attachments are read is seen as attached by the reading,
while the list may be older than the publication of its volume. `Reconciler.mark_isDue_iff` states
that this is the only way in which a sweep marks an attachment as detached that it should have left
alone.
-/

namespace VolumeAttacher.Reconcile

namespace Reconciler

open Watch (System)

/-- How calls begin: those on single objects at any time, on any version that has been stored, and a
sweep when no other one runs. -/
inductive BeginsBeside (reconciler : Reconciler) :
    Errand → Requests (Except Failure Unit) → System → Watch → Prop
  | sync {errand : Errand} {system : System}
      (isKnown : errand.IsKnown system.shared.annals.knowledge)
      (noSweep : errand.isSweep = false) :
      BeginsBeside reconciler errand (errand.work reconciler).run system system.shared
  | sweep {system : System} (alone : ∀ call ∈ system.calls, call.label.isSweep = false) :
      BeginsBeside reconciler .everything reconciler.reconcileAll.run system
        { system.shared with survey := .blank }

/-- A sweep runs beside any number of other calls, and others change the cluster too. -/
def besideSweep (reconciler : Reconciler) (paging : Paging) :
    Program.Rules Request Request.Answer Errand (Except Failure Unit) Watch where
  begins := reconciler.BeginsBeside
  makes errand request watch := watch.asked errand request
  answers errand := Watch.Answered paging errand
  changes := Watch.Changed

/-- Where a call is: a sweep before its first page, while it lists, and with the copies that it has
read; or another call, with what is left of it. -/
inductive SweepStage
  | opening
  | listing
  | comparing (copies : List VolumeAttachment)
  | aside (program : Requests (Except Failure Unit))

/-- The moves of a sweep. Without a list it makes no marks, and what it reads does not matter. -/
inductive SweepMove : SweepStage → (request : Request) → (request.Answer → SweepStage) → Prop
  | list {stage : SweepStage} (lists : stage = .opening ∨ stage = .listing)
      (request : Csi.ListRequest) : SweepMove stage (.call (.list request)) fun _ => .listing
  | read : SweepMove .listing .attachments .comparing
  | forgo : SweepMove .opening .attachments fun _ => .comparing []
  | look {request : Request} (copies : List VolumeAttachment) (isLook : request.isLook) :
      SweepMove (.comparing copies) request fun _ => .comparing copies
  | mark {copies : List VolumeAttachment} {copy : VolumeAttachment} (read : copy ∈ copies)
      (attached : copy.isAttached) (new : VolumeAttachment) :
      SweepMove (.comparing copies) (.writeStatus copy new) fun _ => .comparing copies
  | aside {request : Request} (next : request.Answer → Requests (Except Failure Unit)) :
      SweepMove (.aside (.ask request next)) request fun answer => .aside (next answer)

theorem follows_aside (program : Requests (Except Failure Unit)) :
    program.Follows SweepMove (fun _ _ => True) (.aside program) := by
  induction program with
  | done result => trivial
  | ask request next ih => exact ⟨_, .aside next, ih⟩

variable {reconciler : Reconciler} {paging : Paging}

/-- Whether a listing that ends in a stage with a result has asked for a page if there is a list. -/
def Lists (result : Except Csi.Error Csi.PublishedVolumes) (after : SweepStage) : Prop :=
  (after = .opening ∨ after = .listing) ∧ ∀ published, result = .ok published → after = .listing

theorem listPages_follows (maxEntries : Int32) (pages : Nat) (token : String)
    (published : Csi.PublishedVolumes) {stage : SweepStage}
    (lists : stage = .opening ∨ stage = .listing) :
    Program.Follows (fun stage call later => SweepMove stage (.call call) later) Lists
      (Csi.listPages maxEntries pages token published).run stage := by
  induction pages generalizing token published stage with
  | zero => exact ⟨lists, fun _ isOk => nomatch isOk⟩
  | succ pages ih =>
      have goesOn (response : Csi.ListResponse) (listed : Csi.PublishedVolumes) :
          Program.Follows (fun stage call later => SweepMove stage (.call call) later) Lists
            (ExceptT.run (if response.nextToken.isEmpty then pure listed
              else Csi.listPages maxEntries pages response.nextToken listed)) .listing := by
        cases response.nextToken.isEmpty with
        | true => exact ⟨.inr rfl, fun _ _ => rfl⟩
        | false => exact ih _ _ (.inr rfl)
      refine ⟨_, .list lists _, ?_⟩
      intro answer
      cases answer with
      | error error => exact ⟨.inr rfl, fun _ isOk => nomatch isOk⟩
      | ok response => exact goesOn response _

theorem looks_comparing {α : Type} {action : Action α} (looks : action.Looks)
    (copies : List VolumeAttachment) :
    action.Follows SweepMove (fun _ after => after = .comparing copies)
      (fun _ after => after = .comparing copies) (.comparing copies) :=
  looks.follows (fun _ isLook => .look copies isLook) (fun _ => rfl) fun _ => rfl

/-- Comparing a copy that has been read. -/
theorem sweepAttachment_comparing (published : Csi.PublishedVolumes)
    {copies : List VolumeAttachment} {copy : VolumeAttachment} (read : copy ∈ copies) :
    (reconciler.sweepAttachment published copy).Follows SweepMove
      (fun _ after => after = .comparing copies) (fun _ after => after = .comparing copies)
      (.comparing copies) := by
  unfold sweepAttachment
  split
  next isSwept =>
      have attached : copy.isAttached := by
        simp only [Reconciler.isSwept, Bool.and_eq_true] at isSwept
        exact isSwept.1.2
      apply Action.follows_bind
      apply (looks_comparing (publication?_glances copy).looks copies).mono _ fun _ _ => id
      rintro publication _ rfl
      split
      · exact Action.follows_pure rfl
      · split
        · exact Action.follows_pure rfl
        · apply Action.follows_bind
          apply Action.follows_outcome
          apply Action.follows_request (.writeStatus _ _) id rfl (.mark read attached _)
          intro answer
          cases answer with
          | ok stored => exact Action.follows_pure rfl
          | error failure => exact Action.follows_pure rfl
  next => exact Action.follows_pure rfl

theorem sweep_comparing (published : Csi.PublishedVolumes) :
    (reconciler.sweep published).Follows SweepMove
      (fun _ after => ∃ copies, after = .comparing copies) (fun _ _ => True) .listing := by
  have read : Action.attachments.Follows SweepMove (fun copies after => after = .comparing copies)
      (fun _ _ => True) .listing :=
    Action.follows_request .attachments .ok rfl .read fun _ => rfl
  apply Action.follows_bind
  apply read.mono _ fun _ _ => id
  rintro copies _ rfl
  apply (Action.follows_forM fun copy read => sweepAttachment_comparing published read).mono
  · intro _ _ same
    exact ⟨copies, same⟩
  · intro _ _ _
    trivial

/-- Wherever a sweep is, it goes on with adding all names to the queues. -/
theorem enqueueAll_comparing {stage : SweepStage} (sweeps : ∀ program, stage ≠ .aside program) :
    enqueueAll.Follows SweepMove (fun _ after => ∃ copies, after = .comparing copies)
      (fun _ _ => True) stage := by
  have read : Action.attachments.Follows SweepMove
      (fun _ after => ∃ copies, after = .comparing copies) (fun _ _ => True) stage := by
    cases stage with
    | opening => exact Action.follows_request .attachments .ok rfl .forgo fun _ => ⟨[], rfl⟩
    | listing =>
        exact Action.follows_request .attachments .ok rfl .read fun answer => ⟨answer, rfl⟩
    | comparing copies =>
        exact Action.follows_request .attachments .ok rfl (.look copies rfl) fun _ => ⟨copies, rfl⟩
    | aside program => exact absurd rfl (sweeps program)
  apply Action.follows_bind
  apply read.mono _ fun _ _ => id
  rintro attachments _ ⟨copies, rfl⟩
  apply (looks_comparing (Action.Glances.looks ?_) copies).mono
  · exact fun _ _ same => ⟨copies, same⟩
  · exact fun _ _ _ => trivial
  · apply Action.glances_bind (Action.glances_forM fun _ => Action.glances_ask rfl)
    intro _
    apply Action.glances_bind (Action.glances_ask rfl)
    intro volumes
    exact Action.glances_forM fun _ => Action.glances_ask rfl

theorem reconcileAll_follows :
    Program.Follows SweepMove (fun _ _ => True) reconciler.reconcileAll.run .opening := by
  have closing (listed : Except Failure Unit) {stage : SweepStage}
      (sweeps : ∀ program, stage ≠ .aside program) :
      (enqueueAll >>= fun _ => Action.ofExcept listed).Follows SweepMove (fun _ _ => True)
        (fun _ _ => True) stage := by
    apply Action.follows_bind
    apply (enqueueAll_comparing sweeps).mono _ fun _ _ => id
    rintro _ _ ⟨copies, rfl⟩
    exact (looks_comparing (Action.looks_ofExcept listed) copies).mono (fun _ _ _ => trivial)
      fun _ _ _ => trivial
  suffices reconciler.reconcileAll.Follows SweepMove (fun _ _ => True) (fun _ _ => True)
      .opening from Program.Follows.mono this fun _ _ _ => trivial
  unfold reconcileAll
  apply Action.follows_bind
  unfold requireQueues
  cases reconciler.ready with
  | false => exact Action.follows_throw trivial
  | true =>
      apply Action.follows_pure
      split
      · apply Action.follows_bind
        apply (Action.follows_calls (listPages_follows _ _ _ _ (.inl rfl))).mono _ fun _ _ => id
        rintro result after ⟨sweeps, lists⟩
        cases result with
        | ok published =>
            cases lists published rfl
            apply Action.follows_bind
            apply (sweep_comparing published).mono _ fun _ _ => id
            rintro _ _ ⟨copies, rfl⟩
            exact closing (.ok ()) (by simp)
        | error error =>
            refine closing (.error (.csi error)) ?_
            rcases sweeps with rfl | rfl <;> simp
      · exact closing _ (by simp)

/-- Whether a copy has been read by the sweep, and no sync has newly marked its attachment since if
it is still stored. -/
structure IsCompared (watch : Watch) (copy : VolumeAttachment) : Prop where
  compares : watch.survey.phase = .comparing
  isPast : watch.annals.attachments.IsPast copy
  unmarked : Table.find? watch.annals.attachments.objects copy.name = some copy →
    watch.survey.isNew copy.name = watch.survey.isLate copy.name

/-- The meaning of the stages. -/
def FitsSweep (reconciler : Reconciler) (errand : Errand) : SweepStage → Watch → Prop
  | .opening, watch => errand.isSweep ∧ watch.survey.phase ≠ .comparing
  | .listing, watch => errand.isSweep ∧ watch.survey.phase = .listing
  | .comparing copies, watch => errand.isSweep ∧ ∀ copy ∈ copies, IsCompared watch copy
  | .aside program, watch => errand.isSweep = false ∧ reconciler.Abides watch.annals program

end Reconciler

namespace Reconciler

variable {reconciler : Reconciler} {paging : Paging} {errand other : Errand} {stage : SweepStage}
  {request : Request} {answer : request.Answer} {later : request.Answer → SweepStage}
  {before after : Watch} {annals : Annals} {published : List (String × String)}
  {copy : VolumeAttachment}

/-- A copy that is still stored after an answer is so with the same mark, so that nothing has been
gained. Whatever is stored in a past version after an answer was stored before it. -/
theorem IsCompared.told (compared : IsCompared before copy)
    (answered : Annals.Answered request before.annals answer annals) :
    IsCompared (before.told errand request answer annals published) copy := by
  have told : (before.told errand request answer annals published).survey =
      before.survey.gain fun name => annals.isAttached name && !before.annals.isAttached name := by
    rw [Watch.told, Watch.surveyTold_of_comparing compared.compares]
  refine ⟨?_, answered.isWithin.attachments compared.isPast, ?_⟩
  · rw [told]
    exact compared.compares
  · intro found
    have foundBefore := answered.find?_of_isPast compared.isPast found
    have same : annals.isAttached copy.name = before.annals.isAttached copy.name :=
      (Annals.isAttached_of_find? found).trans (Annals.isAttached_of_find? foundBefore).symm
    rw [told]
    simp [Survey.gain, same, compared.unmarked foundBefore]

theorem keepsName_of_move (move : SweepMove stage request later)
    (fits : reconciler.FitsSweep errand stage before) : request.KeepsName := by
  cases move with
  | list | read | forgo | mark => trivial
  | look copies isLook =>
      cases request with
      | writeAttachment | writeStatus | writeVolume => contradiction
      | _ => trivial
  | aside next => exact Annals.keepsName_of_callMayMake fits.2.callMayMake

/-- A sweep marks only attachments that it has read and that are stored as it has read them, so that
all that have been newly marked as attached were before the reading. -/
theorem marks_of_move (move : SweepMove stage request later) (sound : before.IsSound)
    (fits : reconciler.FitsSweep errand stage before)
    (answered : Annals.Answered request before.annals answer annals) :
    ∀ mark ∈ before.marksAfter errand request answer, mark.IsDue ↔ ¬mark.isLate := by
  cases move with
  | list | read | forgo =>
      rw [Watch.marksAfter_of_isLook rfl]
      exact sound.marks
  | look copies isLook =>
      rw [Watch.marksAfter_of_isLook isLook]
      exact sound.marks
  | aside next =>
      rw [Watch.marksAfter_of_isSweep_false fits.1]
      exact sound.marks
  | @mark copies copy read attached new =>
      rcases fits with ⟨isSweep, areCompared⟩
      have compared := areCompared copy read
      cases errand with
      | attachment | volume => contradiction
      | everything =>
          rcases answered with ⟨_, written⟩
          generalize annals.attachments = chronicle at written
          cases written with
          | refused failure => exact sound.marks
          | accepted found sameVersion gains =>
              cases sound.kept.attachments.eq_of_version_eq compared.isPast found sameVersion
              simp only [Watch.marksAfter]
              split
              · exact sound.marks
              · refine List.forall_mem_cons.mpr ⟨?_, sound.marks⟩
                have isAttached : before.annals.isAttached copy.name :=
                  (Annals.isAttached_of_find? found).trans attached
                have covered := sound.covers (by simp [compared.compares]) copy.name isAttached
                have unmarked := compared.unmarked found
                simp only [Mark.IsDue, Survey.mark, ← unmarked]
                grind

/-- An answer leads a call to a stage that fits. -/
theorem fits_told (move : SweepMove stage request later) (sound : before.IsSound)
    (fits : reconciler.FitsSweep errand stage before)
    (answered : Annals.Answered request before.annals answer annals) :
    reconciler.FitsSweep errand (later answer)
      (before.told errand request answer annals published) := by
  cases move with
  | list lists request =>
      have isSweep : errand.isSweep := by rcases lists with rfl | rfl <;> exact fits.1
      have notComparing : before.survey.phase ≠ .comparing := by
        rcases lists with rfl | rfl
        · exact fits.2
        · simp [fits.2]
      refine ⟨isSweep, ?_⟩
      cases errand with
      | attachment | volume => contradiction
      | everything => exact Survey.phase_ask notComparing
  | read =>
      rcases fits with ⟨isSweep, listing⟩
      cases errand with
      | attachment | volume => contradiction
      | everything =>
          rcases answered with ⟨same, arePast⟩
          subst same
          have told : (before.told .everything .attachments answer before.annals published).survey =
              { before.survey with phase := .comparing, isLate := before.survey.isNew } := by
            simp [Watch.told, Watch.surveyTold, Survey.read_of_listing listing, Survey.gain]
          refine ⟨rfl, ?_⟩
          intro copy copyMem
          refine ⟨?_, arePast copy copyMem, ?_⟩
          · rw [told]
          · intro _
            rw [told]
  | forgo => exact ⟨fits.1, by simp⟩
  | look | mark => exact ⟨fits.1, fun copy copyMem => (fits.2 copy copyMem).told answered⟩
  | aside next => exact ⟨fits.1, fits.2.answered sound.kept answered⟩

/-- What fits a call that is no sweep fits as long as what is known is not forgotten. -/
theorem fits_of_isSweep_false (noSweep : errand.isSweep = false)
    (fits : reconciler.FitsSweep errand stage before)
    (within : before.annals.knowledge.IsWithin after.annals.knowledge) :
    reconciler.FitsSweep errand stage after := by
  cases stage with
  | opening | listing | comparing =>
      rw [FitsSweep, noSweep] at fits
      exact absurd fits.1 Bool.false_ne_true
  | aside program => exact ⟨noSweep, fits.2.mono within⟩

/-- A sweep stays where it is while others are answered. -/
theorem fits_told_beside (noSweep : errand.isSweep = false)
    (fits : reconciler.FitsSweep other stage before)
    (answered : Annals.Answered request before.annals answer annals) :
    reconciler.FitsSweep other stage (before.told errand request answer annals published) := by
  have samePhase : (before.told errand request answer annals published).survey.phase =
      before.survey.phase := by
    rw [Watch.told, Watch.surveyTold_of_isSweep_false noSweep]
    rfl
  cases stage with
  | opening | listing => exact ⟨fits.1, samePhase ▸ fits.2⟩
  | comparing copies =>
      exact ⟨fits.1, fun copy copyMem => (fits.2 copy copyMem).told answered⟩
  | aside program => exact ⟨fits.1, fits.2.mono answered.isWithin⟩

theorem fits_changed (changed : before.Changed after)
    (fits : reconciler.FitsSweep errand stage before) :
    reconciler.FitsSweep errand stage after := by
  cases stage with
  | opening | listing => cases changed <;> exact fits
  | comparing copies =>
      refine ⟨fits.1, fun copy copyMem => ?_⟩
      have compared := fits.2 copy copyMem
      cases changed with
      | published published => exact ⟨compared.compares, compared.isPast, compared.unmarked⟩
      | annals changed unmarking =>
          exact ⟨compared.compares, changed.isWithin.attachments compared.isPast,
            fun found => compared.unmarked (changed.find?_of_isPast compared.isPast found)⟩
  | aside program =>
      cases changed with
      | published published => exact fits
      | annals changed unmarking => exact ⟨fits.1, fits.2.mono changed.isWithin⟩

theorem sound_changed (changed : before.Changed after) (sound : before.IsSound) :
    after.IsSound := by
  cases changed with
  | published published => exact ⟨sound.kept, sound.covers, sound.marks⟩
  | annals changed unmarking =>
      exact ⟨changed.isKept sound.kept,
        fun asked name attached => sound.covers asked name (unmarking name attached), sound.marks⟩

theorem makes_sweep (move : SweepMove stage request later) (sound : before.IsSound)
    (fits : reconciler.FitsSweep errand stage before) :
    (before.asked errand request).IsSound ∧
      reconciler.FitsSweep errand stage (before.asked errand request) := by
  refine ⟨⟨sound.kept, Watch.surveyAsked_covers sound.covers, sound.marks⟩, ?_⟩
  cases stage with
  | opening =>
      refine ⟨fits.1, ?_⟩
      simp only [Watch.asked, Watch.surveyAsked]
      split
      · simp [Survey.phase_ask fits.2]
      · exact fits.2
  | listing =>
      rw [Watch.asked, Watch.surveyAsked_of_asked (by simp [fits.2])]
      exact fits
  | comparing copies =>
      refine ⟨fits.1, fun copy copyMem => ?_⟩
      have compared := fits.2 copy copyMem
      rw [Watch.asked, Watch.surveyAsked_of_asked (by simp [compared.compares])]
      exact compared
  | aside program => exact fits

/-- What keeps the law of marks while a sweep runs beside other calls. A survey that begins anew
would be missed only by a sweep, and no other one runs. -/
def sweepUpkeep (reconciler : Reconciler) (paging : Paging) :
    Program.Upkeep (reconciler.besideSweep paging) SweepMove where
  valid := Watch.IsSound
  fits := reconciler.FitsSweep
  apart label other := label.isSweep = false ∨ other.isSweep = false
  apart_symm := Or.symm
  begins := by
    intro errand program system later begins sound
    cases begins with
    | sync isKnown noSweep =>
        exact ⟨sound, fun _ _ => .inl noSweep,
          ⟨_, follows_aside _, noSweep, Errand.abides isKnown⟩, fun _ _ _ fits => fits⟩
    | sweep alone =>
        refine ⟨⟨sound.kept, fun asked => absurd rfl asked, sound.marks⟩,
          fun call callMem => .inr (alone call callMem),
          ⟨_, reconcileAll_follows, rfl, by simp [Survey.blank]⟩, ?_⟩
        intro other stage apart fits
        exact fits_of_isSweep_false (apart.resolve_left (by simp [Errand.isSweep])) fits ⟨id, id⟩
  makes := by
    intro errand stage request later before move sound fits
    rcases makes_sweep move sound fits with ⟨soundLater, fitsLater⟩
    refine ⟨soundLater, fitsLater, ?_⟩
    rintro other stage (noSweep | noSweep) fitsOther
    · change reconciler.FitsSweep other stage (before.asked errand request)
      rw [Watch.asked, Watch.surveyAsked_of_isSweep_false noSweep]
      exact fitsOther
    · exact fits_of_isSweep_false noSweep fitsOther ⟨id, id⟩
  answers := by
    rintro errand stage request later before answer _ move ⟨annals, published, rfl, answered, _⟩
      sound fits
    refine ⟨⟨answered.isKept (keepsName_of_move move fits) sound.kept,
      (Watch.surveyTold_covers sound.covers).gain, marks_of_move move sound fits answered⟩,
      fits_told move sound fits answered, ?_⟩
    rintro other stage (noSweep | noSweep) fitsOther
    · exact fits_told_beside noSweep fitsOther answered
    · exact fits_of_isSweep_false noSweep fitsOther answered.isWithin
  changes changed sound := ⟨sound_changed changed sound, fun _ _ => fits_changed changed⟩

/-- Whichever calls run beside a sweep, whatever others do, and however the driver pages its list of
what it publishes in the moment: a mark of the sweep is of an attachment that was marked as attached
when the first page was asked for, and that has not been marked as attached since, if and only if no
call has newly marked this attachment as attached between this request and the reading of the
attachments. -/
theorem mark_isDue_iff {initial later : Watch.System}
    (reaches : Program.Reaches (reconciler.besideSweep paging) initial later)
    (noCalls : initial.calls = []) (kept : initial.shared.annals.IsKept)
    (noSweep : initial.shared.survey = .blank) (unmarked : initial.shared.marks = []) :
    ∀ mark ∈ later.shared.marks, mark.IsDue ↔ ¬mark.isLate := by
  have sound : initial.shared.IsSound := by
    refine ⟨kept, ?_, ?_⟩
    · rw [noSweep]
      exact fun asked => absurd rfl asked
    · simp [unmarked]
  exact ((reconciler.sweepUpkeep paging).valid_of_reaches reaches noCalls sound).marks

end Reconciler

namespace Reconciler

open Simulation

/-- A reconciler whose driver lists what it publishes. -/
def listingReconciler : Reconciler := { smallReconciler with listPublished := true }

/-- A call that is answered by a truthful driver runs to its end while others rest. -/
theorem reaches_respond (errand : Errand)
    (others : List (Program.Call Request Request.Answer Errand (Except Failure Unit)))
    (program : Requests (Except Failure Unit)) (watch : Watch) :
    Program.Reaches (listingReconciler.besideSweep Paging.singlePage)
      ⟨watch, ⟨errand, false, program⟩ :: others⟩
      ⟨(program.run (Watch.respond errand) watch).2, others⟩ :=
  Program.reaches_run_beside errand (Watch.respond_answered errand) others program watch

/-- The attachment of the small cluster with the finalizer. -/
def guardedAttachment : VolumeAttachment :=
  { smallAttachment with
    metadata := smallAttachment.metadata.addFinalizer listingReconciler.finalizer }

/-- The same once it is attached. -/
def attachedAttachment : VolumeAttachment :=
  { guardedAttachment with status := some { attached := true } }

/-- An attachment and its volume, both with the finalizer, before any sweep. -/
def initialWatch (attachment : VolumeAttachment) : Watch where
  annals := ⟨.single attachment, .single shieldedVolume⟩
  published := []
  survey := .blank
  marks := []

/-- A sweep that runs alone, and whose driver has lost the volume, marks the attachment. -/
theorem mark_isDue_after_loss : ∃ later,
    Program.Reaches (listingReconciler.besideSweep Paging.singlePage)
        ⟨initialWatch attachedAttachment, []⟩ later ∧
      later.shared.marks = [⟨"va-1", true, false, false⟩] ∧
      (Mark.IsDue ⟨"va-1", true, false, false⟩) := by
  have begins : Program.Step (listingReconciler.besideSweep Paging.singlePage)
      ⟨initialWatch attachedAttachment, []⟩ _ :=
    .begin (.sweep (by simp))
  have reaches := Relation.ReflTransGen.head begins (reaches_respond _ _ _ _)
  have marks : ((listingReconciler.reconcileAll.run.run (Watch.respond .everything)
      (initialWatch attachedAttachment)).2).marks = [⟨"va-1", true, false, false⟩] := by
    decide +kernel
  refine ⟨_, reaches, marks, ?_⟩
  have due := mark_isDue_iff reaches rfl ⟨Chronicle.single_isKept _, Chronicle.single_isKept _⟩ rfl
    rfl ⟨"va-1", true, false, false⟩ (marks ▸ List.mem_singleton_self _)
  exact due.mpr Bool.false_ne_true

/-- After the first page of a sweep has been answered. -/
def listedWatch : Watch :=
  ((initialWatch guardedAttachment).respond .everything (.call (.list {}))).2

/-- After a sync that came then. -/
def syncedWatch : Watch :=
  ((listingReconciler.syncAttachment guardedAttachment).run.run
    (Watch.respond (.attachment guardedAttachment)) listedWatch).2

/-- After the rest of the sweep. -/
def sweptWatch (rest : Requests (Except Failure Unit)) : Watch :=
  (rest.run (Watch.respond .everything) syncedWatch).2

/-- A sync attaches an attachment after the sweep has been told the list and before it reads the
attachments: the sweep marks it as detached, although it was not attached when the sweep asked for
the first page, and the driver publishes its volume. -/
theorem exists_undue_mark : ∃ later : Watch.System,
    Program.Reaches (listingReconciler.besideSweep Paging.singlePage)
        ⟨initialWatch guardedAttachment, []⟩ later ∧
      later.calls = [] ∧ later.shared.annals.isAttached "va-1" = false ∧
      later.shared.published = [("vol-1", "node-id-1")] ∧
      ∃ mark ∈ later.shared.marks, mark.name = "va-1" ∧ mark.wasAttached = false ∧
        ¬mark.IsDue := by
  have goesOn : ∃ next : Except Csi.Error Csi.ListResponse → Requests (Except Failure Unit),
      listingReconciler.reconcileAll.run = .ask (.call (.list {})) next ∧
        (sweptWatch (next (.ok (Paging.pageOf [])))).marks = [⟨"va-1", false, true, true⟩] ∧
        (sweptWatch (next (.ok (Paging.pageOf [])))).published = [("vol-1", "node-id-1")] ∧
        (sweptWatch (next (.ok (Paging.pageOf [])))).annals.isAttached "va-1" = false :=
    ⟨_, rfl, by decide +kernel⟩
  rcases goesOn with ⟨next, starts, marks, published, detached⟩
  have begins : Program.Step (listingReconciler.besideSweep Paging.singlePage)
      ⟨initialWatch guardedAttachment, []⟩
      ⟨initialWatch guardedAttachment, [⟨.everything, false, .ask (.call (.list {})) next⟩]⟩ :=
    .begin (starts ▸ .sweep (by simp))
  have told : Program.Step (listingReconciler.besideSweep Paging.singlePage)
      ⟨_, [⟨.everything, true, .ask (.call (.list {})) next⟩]⟩
      ⟨listedWatch, [⟨.everything, false, next (.ok (Paging.pageOf []))⟩]⟩ :=
    .answer [] [] (Watch.respond_answered .everything _ _)
  have known : (Errand.attachment guardedAttachment).IsKnown listedWatch.annals.knowledge :=
    show guardedAttachment ∈ [guardedAttachment] from List.mem_singleton_self _
  have joins : Program.Step (listingReconciler.besideSweep Paging.singlePage)
      ⟨listedWatch, [⟨.everything, false, next (.ok (Paging.pageOf []))⟩]⟩ _ :=
    .begin (.sync known rfl)
  have listed := ((Relation.ReflTransGen.single begins).tail (.make [] [])).tail told
  have synced := (listed.tail joins).trans (reaches_respond _ _ _ _)
  have swept := synced.trans (reaches_respond _ _ _ _)
  refine ⟨_, swept, rfl, detached, published, _,
    marks ▸ List.mem_singleton_self _, rfl, rfl, ?_⟩
  simp [Mark.IsDue]

end Reconciler

end VolumeAttacher.Reconcile
