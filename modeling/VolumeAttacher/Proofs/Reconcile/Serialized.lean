import VolumeAttacher.Proofs.Reconcile.Concurrency

/-!
# Attachments whose volumes may be published

An attachment carries the finalizer of the attacher from the moment in which the driver is asked to
publish its volume until the driver has said that the volume is unpublished, although the calls work
on attachments that may be outdated. For this the calls on one attachment must not run beside each
other, and each must be given a version that is not older than the one that was given to the call
before: a cache may lag, but it never goes back.

The reason is that no call takes the finalizer off an attachment after a version without a request
for its deletion has been given to a call. A version with the finalizer and without such a request,
if it is not older than the last one that was given, means therefore that the stored attachment
carries the finalizer.
-/

namespace VolumeAttacher.Reconcile

/-- The versions of attachments, with the place of the last version that was given to a call, and
whether the volume may be published, by the name of the attachment. -/
structure Ledger where
  archive : Archive
  given : String → Nat
  isExposed : String → Bool

abbrev Ledger.System : Type :=
  Program.System Request Request.Answer (Option String) (Except Failure Unit) Ledger

namespace Reconciler

variable (reconciler : Reconciler)

/-- How calls begin. A call on an attachment begins when no other one on it runs, and it is given a
version that is not older than the last one. -/
inductive Begins :
    Option String → Requests (Except Failure Unit) → Ledger.System → Ledger → Prop
  | attachment {name : String} {place : Nat} {attachment : VolumeAttachment}
      {system : Ledger.System}
      (found : (system.shared.archive.past name)[place]? = some attachment)
      (newer : system.shared.given name ≤ place)
      (alone : ∀ call ∈ system.calls, call.label ≠ some name) :
      Begins (some name) (reconciler.syncAttachment attachment).run system
        { system.shared with
          given := fun other => if other = name then place else system.shared.given other }
  | volume (volume : PersistentVolume) (system : Ledger.System) :
      Begins none (reconciler.syncVolume volume).run system system.shared
  | everything (system : Ledger.System) :
      Begins none reconciler.reconcileAll.run system system.shared

/-- The calls on an attachment come one after another, with versions that never go back. Others keep
the finalizer, and they drop only what is to be dropped. The volume of an attachment may be
published from the moment in which the driver is asked to publish it. -/
def serialized :
    Program.Rules Request Request.Answer (Option String) (Except Failure Unit) Ledger where
  begins := reconciler.Begins
  makes label request ledger :=
    { ledger with
      isExposed := fun name =>
        if label = some name then ledger.isExposed name || request.isPublish
        else ledger.isExposed name }
  answers label request before answer after :=
    before.archive.Answered request answer after.archive ∧ after.given = before.given ∧
      after.isExposed = fun name =>
        if label = some name then exposedAfter (before.isExposed name) request answer
        else before.isExposed name
  changes before after :=
    Archive.Changed reconciler.finalizer (fun _ _ => True) (Shelf.isFinished ·) before.archive
        after.archive ∧ after.given = before.given ∧ after.isExposed = before.isExposed

/-- Whether the attachment of a name is stored with the finalizer. -/
def IsCarried (archive : Archive) (name : String) : Prop :=
  ∃ stored, Table.find? archive.objects name = some stored ∧
    stored.metadata.hasFinalizer reconciler.finalizer

def CarriesExposed (ledger : Ledger) : Prop :=
  ∀ name, ledger.isExposed name → reconciler.IsCarried ledger.archive name

/-- Whether a version with the finalizer that is not to be deleted and that may still be given to a
call, means that the finalizer is still there. -/
def CarriesGiven (ledger : Ledger) : Prop :=
  ∀ {name place attachment}, ledger.given name ≤ place →
    (ledger.archive.past name)[place]? = some attachment →
    attachment.metadata.hasFinalizer reconciler.finalizer → ¬attachment.isDeleting →
    reconciler.IsCarried ledger.archive name

/-- Whether a copy is a version that is not older than the last one that was given, and is not to be
deleted. -/
def IsStanding (ledger : Ledger) (attachment : VolumeAttachment) : Prop :=
  ∃ place, ledger.given attachment.name ≤ place ∧
    (ledger.archive.past attachment.name)[place]? = some attachment ∧ ¬attachment.isDeleting

/-- Whether a copy is a version that is not older than the last one that was given, and every
version from that one up to the copy is to be deleted. -/
def IsLeaving (ledger : Ledger) (attachment : VolumeAttachment) : Prop :=
  ∃ place, ledger.given attachment.name ≤ place ∧
    (ledger.archive.past attachment.name)[place]? = some attachment ∧
    ∀ {other version}, ledger.given attachment.name ≤ other → other ≤ place →
      (ledger.archive.past attachment.name)[other]? = some version → version.isDeleting

/-- What is known of the copy of a call in a ledger. -/
def Tracks (label : Option String) (ledger : Ledger) : Stage → Prop
  | .attaching attachment | .found attachment _ | .shielded attachment | .guarded attachment
  | .published attachment => label = some attachment.name ∧ IsStanding ledger attachment
  | .detaching attachment => label = some attachment.name ∧ IsLeaving ledger attachment
  | .unpublished attachment | .cleared attachment =>
      label = some attachment.name ∧ IsLeaving ledger attachment ∧
        ledger.isExposed attachment.name = false
  | .releasing _ | .unused _ | .resting => True

variable {reconciler} {label : Option String} {stage : Stage} {before after : Ledger}

theorem getElem?_of_grows {first second : List VolumeAttachment} {place : Nat}
    (grows : first <+: second) (within : place < first.length) :
    second[place]? = first[place]? := by
  rcases grows with ⟨rest, rfl⟩
  exact List.getElem?_append_left within

theorem place_of_stored {archive : Archive} {name : String} {stored : VolumeAttachment}
    {place : Nat} (kept : archive.IsKept) (found : Table.find? archive.objects name = some stored)
    (placed : (archive.past name)[place]? = some stored) :
    place + 1 = (archive.past name).length := by
  have within := (List.getElem?_eq_some_iff.mp placed).1
  have last := kept.current found
  rw [List.getLast?_eq_getElem?, ← placed] at last
  have same := (List.getElem?_inj within (List.Nodup.of_map _ (kept.distinct name))).mp last.symm
  omega

theorem IsStanding.mono {attachment : VolumeAttachment} (standing : IsStanding before attachment)
    (grows : before.archive.past attachment.name <+: after.archive.past attachment.name)
    (given : after.given attachment.name = before.given attachment.name) :
    IsStanding after attachment := by
  rcases standing with ⟨place, newer, placed, notDeleting⟩
  have within := (List.getElem?_eq_some_iff.mp placed).1
  refine ⟨place, by rwa [given], ?_, notDeleting⟩
  rw [getElem?_of_grows grows within]
  exact placed

theorem IsLeaving.mono {attachment : VolumeAttachment} (leaving : IsLeaving before attachment)
    (grows : before.archive.past attachment.name <+: after.archive.past attachment.name)
    (given : after.given attachment.name = before.given attachment.name) :
    IsLeaving after attachment := by
  rcases leaving with ⟨place, newer, placed, deleting⟩
  have within := (List.getElem?_eq_some_iff.mp placed).1
  refine ⟨place, by rwa [given], ?_, ?_⟩
  · rw [getElem?_of_grows grows within]
    exact placed
  · intro other version newerOther upTo placedOther
    rw [given] at newerOther
    rw [getElem?_of_grows grows (by omega)] at placedOther
    exact deleting newerOther upTo placedOther

/-- What is known of a copy stays so as long as nothing else is given to a call on its attachment,
and its volume is not published. -/
theorem Tracks.mono (tracks : Tracks label before stage)
    (grows : ∀ name, before.archive.past name <+: after.archive.past name)
    (same : ∀ name, label = some name →
      after.given name = before.given name ∧
        (before.isExposed name = false → after.isExposed name = false)) :
    Tracks label after stage := by
  cases stage with
  | attaching attachment | found attachment _ | shielded attachment | guarded attachment
  | published attachment =>
      exact ⟨tracks.1, tracks.2.mono (grows _) (same _ tracks.1).1⟩
  | detaching attachment => exact ⟨tracks.1, tracks.2.mono (grows _) (same _ tracks.1).1⟩
  | unpublished attachment | cleared attachment =>
      exact ⟨tracks.1, tracks.2.1.mono (grows _) (same _ tracks.1).1,
        (same _ tracks.1).2 tracks.2.2⟩
  | releasing _ | unused _ | resting => trivial

theorem IsStanding.isCarried {attachment : VolumeAttachment}
    (standing : IsStanding before attachment)
    (carries : attachment.metadata.hasFinalizer reconciler.finalizer)
    (given : reconciler.CarriesGiven before) :
    reconciler.IsCarried before.archive attachment.name := by
  rcases standing with ⟨place, newer, placed, notDeleting⟩
  exact given newer placed carries notDeleting

/-- A new version with the finalizer carries it, and the other names carry what they carried. -/
theorem isCarried_of_gains {archive later : Archive} {name other : String}
    {written : VolumeAttachment} (gains : archive.Gains name written later)
    (keeps : other = name → written.metadata.hasFinalizer reconciler.finalizer)
    (carried : reconciler.IsCarried archive other) : reconciler.IsCarried later other := by
  by_cases same : other = name
  · subst same
    exact ⟨written, gains.stores.find?_eq (keeps rfl), keeps rfl⟩
  · rcases carried with ⟨stored, found, carries⟩
    exact ⟨stored, (gains.stores.others other same).trans found, carries⟩

/-- A new version keeps what versions that may still be given mean, if it carries the finalizer in
case that they mean anything. -/
theorem carriesGiven_of_gains {archive : Archive} {name : String} {written : VolumeAttachment}
    (gains : before.archive.Gains name written archive)
    (keeps : ∀ {place attachment}, before.given name ≤ place →
      (before.archive.past name)[place]? = some attachment →
      attachment.metadata.hasFinalizer reconciler.finalizer → ¬attachment.isDeleting →
      written.metadata.hasFinalizer reconciler.finalizer)
    (carries : reconciler.CarriesGiven before) :
    reconciler.CarriesGiven { before with archive } := by
  intro other place attachment newer placed attachmentCarries notDeleting
  by_cases within : place < (before.archive.past other).length
  · rw [getElem?_of_grows (gains.prefix_past other) within] at placed
    apply isCarried_of_gains gains _ (carries newer placed attachmentCarries notDeleting)
    rintro rfl
    exact keeps newer placed attachmentCarries notDeleting
  · rw [gains.past] at placed
    split at placed
    next same =>
        subst same
        rw [List.getElem?_append_right (by omega), List.getElem?_singleton] at placed
        split at placed
        · cases placed
          exact ⟨written, gains.stores.find?_eq attachmentCarries, attachmentCarries⟩
        · contradiction
    next =>
        rw [List.getElem?_eq_none (by omega)] at placed
        contradiction

/-- Once the stored attachment has been cleared, every version that may still be given is to be
deleted. -/
theorem IsLeaving.isDeleting {stored attachment : VolumeAttachment} {place : Nat}
    (leaving : IsLeaving before stored) (kept : before.archive.IsKept)
    (found : Table.find? before.archive.objects stored.name = some stored)
    (newer : before.given stored.name ≤ place)
    (placed : (before.archive.past stored.name)[place]? = some attachment) :
    attachment.isDeleting := by
  rcases leaving with ⟨last, _, placedLast, deleting⟩
  have isLast := place_of_stored kept found placedLast
  have within := (List.getElem?_eq_some_iff.mp placed).1
  exact deleting newer (by omega) placed

/-- The finalizer may go once the stored attachment has been cleared: all versions that can still be
given are to be deleted then, and the volume is not published. -/
theorem Renewal.carries {archive : Archive}
    (renewal : reconciler.Renewal stage before.archive archive) (kept : before.archive.IsKept)
    (tracks : Tracks label before stage) (carriesGiven : reconciler.CarriesGiven before)
    (carriesExposed : reconciler.CarriesExposed before) :
    reconciler.CarriesGiven { before with archive } ∧
      reconciler.CarriesExposed { before with archive } := by
  cases renewal with
  | same => exact ⟨carriesGiven, carriesExposed⟩
  | @written name stored written _ found gains named spec attached keeps =>
      have storedName : stored.name = name := kept.name_eq found
      subst storedName
      by_cases isCleared : stage = .cleared stored
      · subst isCleared
        refine ⟨carriesGiven_of_gains gains ?_ carriesGiven, ?_⟩
        · intro place attachment newer placed _ notDeleting
          exact absurd (tracks.2.1.isDeleting kept found newer placed) notDeleting
        · intro other exposed
          apply isCarried_of_gains gains _ (carriesExposed other exposed)
          rintro rfl
          exact absurd (tracks.2.2.symm.trans exposed) Bool.false_ne_true
      · have keepsName (carried : reconciler.IsCarried before.archive stored.name) :
            written.metadata.hasFinalizer reconciler.finalizer := by
          rcases carried with ⟨other, foundOther, carriesOther⟩
          cases Option.some.inj (found.symm.trans foundOther)
          exact (keeps carriesOther).resolve_right isCleared
        refine ⟨carriesGiven_of_gains gains ?_ carriesGiven, ?_⟩
        · intro place attachment newer placed attachmentCarries notDeleting
          exact keepsName (carriesGiven newer placed attachmentCarries notDeleting)
        · intro other exposed
          have carried := carriesExposed other exposed
          apply isCarried_of_gains gains _ carried
          rintro rfl
          exact keepsName carried

theorem changed_isCarried {archive later : Archive} {name : String}
    {writable : Option VolumeAttachment → VolumeAttachment → Prop}
    (changed : archive.Changed reconciler.finalizer writable (Shelf.isFinished ·) later)
    (carried : reconciler.IsCarried archive name) : reconciler.IsCarried later name := by
  cases changed with
  | written gains allowed =>
      apply isCarried_of_gains gains _ carried
      rintro rfl
      rcases carried with ⟨stored, found, carries⟩
      exact allowed.1 stored found carries
  | dropped finished =>
      rcases carried with ⟨stored, found, carries⟩
      refine ⟨stored, ?_, carries⟩
      rw [Table.find?_erase, if_neg, found]
      rintro rfl
      have isFinished := finished stored found
      rw [Shelf.not_isFinished carries] at isFinished
      contradiction

theorem changed_carries {archive : Archive}
    {writable : Option VolumeAttachment → VolumeAttachment → Prop}
    (changed : before.archive.Changed reconciler.finalizer writable (Shelf.isFinished ·) archive)
    (carriesGiven : reconciler.CarriesGiven before)
    (carriesExposed : reconciler.CarriesExposed before) :
    reconciler.CarriesGiven { before with archive } ∧
      reconciler.CarriesExposed { before with archive } := by
  have carried {name : String} : reconciler.IsCarried before.archive name →
      reconciler.IsCarried archive name := changed_isCarried changed
  refine ⟨?_, fun name exposed => carried (carriesExposed name exposed)⟩
  cases changed with
  | written gains allowed =>
      refine carriesGiven_of_gains gains ?_ carriesGiven
      intro place attachment newer placed attachmentCarries notDeleting
      rcases carriesGiven newer placed attachmentCarries notDeleting with ⟨stored, found, carries⟩
      exact allowed.1 stored found carries
  | dropped finished =>
      intro name place attachment newer placed attachmentCarries notDeleting
      exact carried (carriesGiven newer placed attachmentCarries notDeleting)

theorem tracks_secured {attachment : VolumeAttachment} (isLabel : label = some attachment.name)
    (standing : IsStanding before attachment) :
    Tracks label before (reconciler.secured attachment) := by
  unfold secured
  split
  · exact ⟨isLabel, standing⟩
  · exact ⟨isLabel, standing⟩

theorem tracks_withdrawn {attachment : VolumeAttachment} (isLabel : label = some attachment.name)
    (leaving : IsLeaving before attachment)
    (unexposed : before.isExposed attachment.name = false) :
    Tracks label before (withdrawn attachment) := by
  unfold withdrawn
  split
  · exact ⟨isLabel, leaving, unexposed⟩
  · exact ⟨isLabel, leaving, unexposed⟩

theorem IsStanding.notDeleting {attachment : VolumeAttachment}
    (standing : IsStanding before attachment) : ¬attachment.isDeleting := by
  rcases standing with ⟨_, _, _, notDeleting⟩
  exact notDeleting

theorem IsLeaving.isDeleting_copy {attachment : VolumeAttachment}
    (leaving : IsLeaving before attachment) : attachment.isDeleting := by
  rcases leaving with ⟨place, newer, placed, deleting⟩
  exact deleting newer (Nat.le_refl place) placed

/-- A new version of a standing copy that is not to be deleted stands. -/
theorem IsStanding.gains {attachment written : VolumeAttachment} {archive : Archive}
    (standing : IsStanding before attachment)
    (gains : before.archive.Gains attachment.name written archive)
    (named : written.name = attachment.name) (notDeleting : ¬written.isDeleting) :
    IsStanding { before with archive } written := by
  rcases standing with ⟨place, newer, placed, _⟩
  have within := (List.getElem?_eq_some_iff.mp placed).1
  refine ⟨(before.archive.past attachment.name).length, ?_, ?_, notDeleting⟩
  · rw [named]
    exact Nat.le_trans newer (Nat.le_of_lt within)
  · rw [named, gains.past, if_pos rfl]
    exact List.getElem?_concat_length

/-- A new version of a leaving copy that is the stored attachment leaves, if it is to be deleted. -/
theorem IsLeaving.gains {attachment written : VolumeAttachment} {archive : Archive}
    (leaving : IsLeaving before attachment) (kept : before.archive.IsKept)
    (found : Table.find? before.archive.objects attachment.name = some attachment)
    (gains : before.archive.Gains attachment.name written archive)
    (named : written.name = attachment.name) (isDeleting : written.isDeleting) :
    IsLeaving { before with archive } written := by
  have newest : before.given attachment.name ≤ (before.archive.past attachment.name).length := by
    rcases leaving with ⟨place, newer, placed, _⟩
    have within := (List.getElem?_eq_some_iff.mp placed).1
    omega
  refine ⟨(before.archive.past attachment.name).length, ?_, ?_, ?_⟩
  · rw [named]
    exact newest
  · rw [named, gains.past, if_pos rfl]
    exact List.getElem?_concat_length
  · intro other version newer upTo placed
    rw [named] at newer placed
    by_cases within : other < (before.archive.past attachment.name).length
    · rw [getElem?_of_grows (gains.prefix_past _) within] at placed
      exact leaving.isDeleting kept found newer placed
    · rw [gains.past, if_pos rfl, show other = _ from Nat.le_antisymm upTo (Nat.not_lt.mp within),
        List.getElem?_concat_length] at placed
      cases placed
      exact isDeleting

theorem Move.tracks {request : Request} {later : request.Answer → Stage} {answer : request.Answer}
    (move : reconciler.Move stage request later) (kept : before.archive.IsKept)
    (knows : reconciler.Knows before.archive stage)
    (answered : reconciler.serialized.answers label request before answer after)
    (tracks : Tracks label before stage) : Tracks label after (later answer) := by
  rcases after with ⟨archive, given, isExposed⟩
  rcases answered with ⟨answered, rfl, rfl⟩
  cases move with
  | look isLook =>
      have same : archive = before.archive := answered.eq_of_isLook isLook
      subst same
      refine tracks.mono (fun _ => List.prefix_rfl) ?_
      intro name isLabel
      refine ⟨rfl, fun unexposed => ?_⟩
      simp only [if_pos isLabel]
      rw [Bool.eq_false_iff]
      intro exposed
      have wasExposed := exposedAfter_of_not_publish (isPublish_of_isLook isLook) exposed
      exact absurd (unexposed.symm.trans wasExposed) Bool.false_ne_true
  | find _ =>
      cases answered
      cases answer with
      | none => exact tracks
      | some volume =>
          simp only [afterLookup]
          split
          · exact tracks_secured tracks.1 tracks.2
          · exact tracks
  | shield attachment volume =>
      cases answered
      cases answer with
      | ok stored => exact tracks_secured tracks.1 tracks.2
      | error failure => exact tracks
  | guard attachment nodeId =>
      cases answered with
      | refused failure => exact tracks
      | @accepted stored stamp _ found sameVersion gains =>
          have named : (Versioned.stamped
              { reconciler.protectedAttachment attachment nodeId with status := stored.status }
              stamp).name = attachment.name := name_protectedAttachment attachment nodeId
          have notDeleting : ¬(reconciler.protectedAttachment attachment nodeId).isDeleting := by
            rw [isDeleting_protectedAttachment]
            exact tracks.2.notDeleting
          refine ⟨?_, tracks.2.gains gains named notDeleting⟩
          rw [named]
          exact tracks.1
  | publish attachment request =>
      cases answered
      cases answer with
      | ok response => exact tracks
      | error error => exact tracks
  | @unpublish attachment carries request =>
      cases answered
      have unexposed (settled : exposedAfter (before.isExposed attachment.name) _ answer = false) :
          (if label = some attachment.name then
              exposedAfter (before.isExposed attachment.name) _ answer
            else before.isExposed attachment.name) = false := by
        rw [if_pos tracks.1]
        exact settled
      cases answer with
      | ok response => exact tracks_withdrawn tracks.1 tracks.2 (unexposed rfl)
      | error error =>
          simp only [afterUnpublishing]
          split
          next isFinal =>
              exact tracks_withdrawn tracks.1 tracks.2
                (unexposed (by simp [exposedAfter, isFinal]))
          next => exact tracks
  | clear attachment =>
      cases answered with
      | refused failure => trivial
      | @accepted stored stamp _ found sameVersion gains =>
          cases kept.eq_of_version_eq knows found sameVersion
          have isDeleting := tracks.2.1.isDeleting_copy
          refine ⟨tracks.1, tracks.2.1.gains kept found gains rfl isDeleting, ?_⟩
          exact (if_pos tracks.1).trans tracks.2.2
  | survey volume =>
      simp only [afterSurvey]
      split <;> trivial
  | confirm _ _ | unguard _ | remark _ | release _ => trivial

theorem tracks_opening {name : String} {attachment : VolumeAttachment} {place : Nat}
    (kept : before.archive.IsKept) (given : before.given name = place)
    (placed : (before.archive.past name)[place]? = some attachment) :
    Tracks (some name) before (opening attachment) := by
  have named : attachment.name = name := kept.named (List.mem_of_getElem? placed)
  subst named
  unfold opening
  split
  next isDeleting =>
      refine ⟨rfl, place, Nat.le_of_eq given, placed, ?_⟩
      intro other version newer upTo placedOther
      rw [show other = place by omega, placed] at placedOther
      cases placedOther
      exact isDeleting
  next notDeleting => exact ⟨rfl, place, Nat.le_of_eq given, placed, notDeleting⟩

theorem Move.of_isPublish {request : Request} {later : request.Answer → Stage}
    (move : reconciler.Move stage request later) (isPublish : request.isPublish) :
    ∃ attachment, stage = .guarded attachment := by
  cases move with
  | publish attachment request => exact ⟨attachment, rfl⟩
  | look isLook =>
      rw [isPublish_of_isLook isLook] at isPublish
      contradiction
  | find _ | shield _ _ | guard _ _ | confirm _ _ | unpublish _ _ | clear _ | unguard _ | remark _
  | survey _ | release _ => contradiction

/-- What is published has the finalizer, before and after the driver is asked. -/
theorem carriesExposed_of_move {request : Request} {later : request.Answer → Stage}
    {isExposed : String → Bool} (move : reconciler.Move stage request later)
    (knows : reconciler.Knows before.archive stage) (tracks : Tracks label before stage)
    (carriesGiven : reconciler.CarriesGiven before)
    (exposed : ∀ name, isExposed name → before.isExposed name ∨
      label = some name ∧ request.isPublish)
    (carriesExposed : reconciler.CarriesExposed before) :
    reconciler.CarriesExposed { before with isExposed } := by
  intro name exposedLater
  rcases exposed name exposedLater with exposedBefore | ⟨isLabel, isPublish⟩
  · exact carriesExposed name exposedBefore
  · rcases move.of_isPublish isPublish with ⟨attachment, rfl⟩
    cases isLabel.symm.trans tracks.1
    exact tracks.2.isCarried knows.2 carriesGiven

/-- Whether a ledger is in order and keeps the laws. -/
structure IsSound (reconciler : Reconciler) (ledger : Ledger) : Prop where
  kept : ledger.archive.IsKept
  carriesGiven : reconciler.CarriesGiven ledger
  carriesExposed : reconciler.CarriesExposed ledger

/-- Whether two calls are not on the same attachment. -/
def IsApart (label other : Option String) : Prop :=
  ∀ name, label = some name → other ≠ some name

/-- What is tracked of a call is not changed by one that is apart from it. -/
theorem Tracks.of_isApart {other : Option String} (tracks : Tracks other before stage)
    (apart : IsApart label other)
    (grows : ∀ name, before.archive.past name <+: after.archive.past name)
    (same : ∀ name, label ≠ some name →
      after.given name = before.given name ∧ after.isExposed name = before.isExposed name) :
    Tracks other after stage := by
  apply tracks.mono grows
  intro name isOther
  have different : label ≠ some name := fun isLabel => apart name isLabel isOther
  refine ⟨(same name different).1, fun unexposed => ?_⟩
  rw [(same name different).2]
  exact unexposed

theorem Begins.sound {program : Requests (Except Failure Unit)} {system : Ledger.System}
    (begins : reconciler.Begins label program system after)
    (sound : reconciler.IsSound system.shared) :
    reconciler.IsSound after ∧ (∀ call ∈ system.calls, IsApart label call.label) ∧
      (∃ stage, program.Follows reconciler.Move (fun _ _ => True) stage ∧
        reconciler.Knows after.archive stage ∧ Tracks label after stage) ∧
      ∀ other stage, IsApart label other →
        reconciler.Knows system.shared.archive stage ∧ Tracks other system.shared stage →
        reconciler.Knows after.archive stage ∧ Tracks other after stage := by
  cases begins with
  | @attachment name place attachment _ found newer alone =>
      have known := List.mem_of_getElem? found
      refine ⟨⟨sound.kept, ?_, sound.carriesExposed⟩, ?_, ?_, ?_⟩
      · intro other otherPlace version newerOther
        apply sound.carriesGiven
        simp only at newerOther
        split at newerOther
        next same =>
            rw [same]
            exact Nat.le_trans newer newerOther
        next => exact newerOther
      · intro call callMem _ isName
        cases isName
        exact alone call callMem
      · refine ⟨_, (syncAttachment_keeps attachment).follows, ?_, ?_⟩
        · cases sound.kept.named known
          exact knows_opening known
        · exact tracks_opening sound.kept (if_pos rfl) found
      · rintro other stage apart ⟨knows, tracks⟩
        refine ⟨knows, tracks.of_isApart apart (fun _ => List.prefix_rfl) ?_⟩
        intro otherName different
        refine ⟨if_neg ?_, rfl⟩
        rintro rfl
        exact different rfl
  | volume volume =>
      refine ⟨sound, ?_, ?_, fun _ _ _ fits => fits⟩
      · intro _ _ _ isNone
        contradiction
      · exact ⟨_, (syncVolume_keeps volume).follows, trivial, trivial⟩
  | everything =>
      refine ⟨sound, ?_, ?_, fun _ _ _ fits => fits⟩
      · intro _ _ _ isNone
        contradiction
      · exact ⟨_, reconcileAll_keeps.follows, trivial, trivial⟩

theorem Move.sound_of_makes {request : Request} {later : request.Answer → Stage}
    (move : reconciler.Move stage request later) (sound : reconciler.IsSound before)
    (knows : reconciler.Knows before.archive stage) (tracks : Tracks label before stage) :
    reconciler.IsSound (reconciler.serialized.makes label request before) ∧
      Tracks label (reconciler.serialized.makes label request before) stage := by
  refine ⟨⟨sound.kept, sound.carriesGiven, ?_⟩, ?_⟩
  · apply carriesExposed_of_move move knows tracks sound.carriesGiven _ sound.carriesExposed
    intro name exposed
    split at exposed
    next isLabel =>
        rw [Bool.or_eq_true] at exposed
        exact exposed.imp_right fun isPublish => ⟨isLabel, isPublish⟩
    next => exact Or.inl exposed
  · cases isPublish : request.isPublish with
    | true =>
        rcases move.of_isPublish isPublish with ⟨attachment, rfl⟩
        exact tracks
    | false =>
        refine tracks.mono (fun _ => List.prefix_rfl) ?_
        intro name isLabel
        refine ⟨rfl, fun unexposed => ?_⟩
        simp [serialized, isLabel, unexposed, isPublish]

theorem Move.sound_of_answers {request : Request} {later : request.Answer → Stage}
    {answer : request.Answer} (move : reconciler.Move stage request later)
    (answered : reconciler.serialized.answers label request before answer after)
    (sound : reconciler.IsSound before) (knows : reconciler.Knows before.archive stage)
    (tracks : Tracks label before stage) : reconciler.IsSound after := by
  rcases after with ⟨archive, given, isExposed⟩
  rcases answered with ⟨answered, rfl, rfl⟩
  have renewal := move.renewal sound.kept knows answered
  rcases renewal.carries sound.kept tracks sound.carriesGiven sound.carriesExposed with
    ⟨carriesGiven, carriesExposed⟩
  have knowsLater : reconciler.Knows archive stage :=
    knows.mono fun name => (renewal.prefix_past name).subset
  have tracksLater : Tracks label { before with archive } stage :=
    tracks.mono renewal.prefix_past fun _ _ => ⟨rfl, id⟩
  refine ⟨renewal.isKept sound.kept, carriesGiven, ?_⟩
  apply carriesExposed_of_move move knowsLater tracksLater carriesGiven _ carriesExposed
  intro name exposed
  split at exposed
  next isLabel =>
      cases isPublish : request.isPublish with
      | true => exact Or.inr ⟨isLabel, rfl⟩
      | false => exact Or.inl (exposedAfter_of_not_publish isPublish exposed)
  next => exact Or.inl exposed

/-- What keeps the law while the calls on one attachment come one after another. -/
def serializedUpkeep (reconciler : Reconciler) :
    Program.Upkeep reconciler.serialized reconciler.Move where
  valid := reconciler.IsSound
  fits label stage ledger := reconciler.Knows ledger.archive stage ∧ Tracks label ledger stage
  apart := IsApart
  apart_symm apart name isOther isLabel := apart name isLabel isOther
  begins := Begins.sound
  makes := by
    rintro label stage request later ledger move sound ⟨knows, tracks⟩
    rcases move.sound_of_makes sound knows tracks with ⟨soundLater, tracksLater⟩
    refine ⟨soundLater, ⟨knows, tracksLater⟩, ?_⟩
    rintro other stage apart ⟨knowsOther, tracksOther⟩
    refine ⟨knowsOther, tracksOther.of_isApart apart (fun _ => List.prefix_rfl) ?_⟩
    exact fun name different => ⟨rfl, if_neg different⟩
  answers := by
    rintro label stage request later before answer after move answered sound ⟨knows, tracks⟩
    have renewal := move.renewal sound.kept knows answered.1
    refine ⟨move.sound_of_answers answered sound knows tracks,
      ⟨move.knows sound.kept knows answered.1, move.tracks sound.kept knows answered tracks⟩, ?_⟩
    rintro other stage apart ⟨knowsOther, tracksOther⟩
    refine ⟨knowsOther.mono fun name => (renewal.prefix_past name).subset,
      tracksOther.of_isApart apart renewal.prefix_past ?_⟩
    intro name different
    refine ⟨congrFun answered.2.1 name, ?_⟩
    rw [answered.2.2]
    exact if_neg different
  changes := by
    rintro before ⟨archive, given, isExposed⟩ ⟨changed, rfl, rfl⟩ sound
    rcases changed_carries changed sound.carriesGiven sound.carriesExposed with
      ⟨carriesGiven, carriesExposed⟩
    refine ⟨⟨changed.isKept sound.kept, carriesGiven, carriesExposed⟩, ?_⟩
    rintro label stage ⟨knows, tracks⟩
    exact ⟨knows.mono fun name => (changed.prefix_past name).subset,
      tracks.mono changed.prefix_past fun _ _ => ⟨rfl, id⟩⟩

/-- Whether a run may begin with a ledger: no volume may be published, and nobody has taken the
finalizer off an attachment that is known. -/
structure IsFresh (reconciler : Reconciler) (ledger : Ledger) : Prop where
  kept : ledger.archive.IsKept
  spared : ∀ {name attachment}, attachment ∈ ledger.archive.past name →
    attachment.metadata.hasFinalizer reconciler.finalizer →
    reconciler.IsCarried ledger.archive name
  unexposed : ∀ name, ledger.isExposed name = false

theorem IsFresh.isSound (fresh : reconciler.IsFresh before) : reconciler.IsSound before where
  kept := fresh.kept
  carriesGiven := by
    intro name place attachment _ placed carries _
    exact fresh.spared (List.mem_of_getElem? placed) carries
  carriesExposed := by
    intro name exposed
    exact absurd ((fresh.unexposed name).symm.trans exposed) Bool.false_ne_true

/-- While the calls on one attachment come one after another and are given versions of it that never
go back, an attachment is stored with the finalizer from the moment in which the driver is asked to
publish its volume until it has said that the volume is unpublished, whatever the driver answers and
whichever writes are refused. -/
theorem published_hasFinalizer {initial later : Ledger.System}
    (reaches : Program.Reaches reconciler.serialized initial later)
    (noCalls : initial.calls = []) (fresh : reconciler.IsFresh initial.shared) :
    ∀ name, later.shared.isExposed name → ∃ attachment,
      Table.find? later.shared.archive.objects name = some attachment ∧
        attachment.metadata.hasFinalizer reconciler.finalizer :=
  (reconciler.serializedUpkeep.valid_of_reaches reaches noCalls fresh.isSound).carriesExposed

open Simulation

def smallLedger : Ledger where
  archive := smallArchive
  given _ := 0
  isExposed _ := false

theorem smallLedger_isFresh : smallReconciler.IsFresh smallLedger where
  kept := Chronicle.single_isKept smallAttachment
  spared := by
    intro name attachment known carries
    simp only [smallLedger, smallArchive, Chronicle.single] at known
    split at known
    next =>
        rw [List.mem_singleton.mp known] at carries
        contradiction
    next => contradiction
  unexposed _ := rfl

def respond (label : Option String) (request : Request) (ledger : Ledger) :
    request.Answer × Ledger :=
  let (answer, archive) := Archive.respond smallNode smallVolume request ledger.archive
  (answer,
    { archive
      given := ledger.given
      isExposed := fun name =>
        if label = some name then
          exposedAfter ((smallReconciler.serialized.makes label request ledger).isExposed name)
            request answer
        else (smallReconciler.serialized.makes label request ledger).isExposed name })

theorem respond_answered (label : Option String) (request : Request) (ledger : Ledger) :
    smallReconciler.serialized.answers label request
      (smallReconciler.serialized.makes label request ledger) (respond label request ledger).1
      (respond label request ledger).2 :=
  ⟨Archive.respond_answered smallNode smallVolume request ledger.archive, rfl, rfl⟩

/-- In the small cluster the driver is asked to publish the volume, and the attachment carries the
finalizer then. -/
theorem published_hasFinalizer_after_attach : ∃ later,
    Program.Reaches smallReconciler.serialized ⟨smallLedger, []⟩ later ∧
      later.shared.isExposed "va-1" ∧ ∃ attachment,
        Table.find? later.shared.archive.objects "va-1" = some attachment ∧
          attachment.metadata.hasFinalizer smallReconciler.finalizer := by
  have begins : Program.Step smallReconciler.serialized ⟨smallLedger, []⟩ _ :=
    .begin (.attachment
      (show (smallLedger.archive.past "va-1")[0]? = some smallAttachment from rfl)
      (Nat.le_refl 0) (by simp))
  have reaches := Relation.ReflTransGen.head begins
    (Program.reaches_run (some "va-1") (respond_answered (some "va-1"))
      (smallReconciler.syncAttachment smallAttachment).run _)
  refine ⟨_, reaches, by decide +kernel, ?_⟩
  exact published_hasFinalizer reaches rfl smallLedger_isFresh "va-1" (by decide +kernel)

end Reconciler

end VolumeAttacher.Reconcile
