import VolumeAttacher.Proofs.Reconcile.Frame

/-!
# What is noted of a sweep

A sweep lists what the driver publishes, page by page, and only then reads the attachments, to mark
those as detached that are marked as attached but were not listed. A `Survey` notes which
attachments were marked as attached when the sweep asked for its first page, which have been newly
marked as attached since, and which of these were before the attachments were read.

A `Watch` is a cluster and a driver with the survey of the sweep that runs. The driver is truthful:
each page that it answers tells what it publishes in this moment.
-/

namespace VolumeAttacher.Reconcile

/-- How a driver cuts the list of its volumes into pages: the place of each volume in the list, and
the place where the page of a token starts. -/
structure Paging where
  place : String → Nat
  start : String → Nat
  start_empty : start "" = 0

namespace Paging

/-- Whether a page tells what is published: each entry names the nodes that its volume is published
on, and every published volume from the page's token up to the next one has an entry. -/
structure IsTruthful (paging : Paging) (published : List (String × String))
    (request : Csi.ListRequest) (response : Csi.ListResponse) : Prop where
  entries : ∀ entry ∈ response.entries, ∀ volume, entry.volume = some volume → ∀ nodeId,
    nodeId ∈ (entry.status.map (·.publishedNodeIds)).getD [] ↔
      (volume.volumeId, nodeId) ∈ published
  complete : ∀ pair ∈ published, paging.start request.startingToken ≤ paging.place pair.1 →
    (response.nextToken.isEmpty ∨ paging.place pair.1 < paging.start response.nextToken) →
    ∃ entry ∈ response.entries, ∃ volume, entry.volume = some volume ∧ volume.volumeId = pair.1

/-- How the driver may answer, by the names of the volumes and nodes that it publishes before and
afterwards. A volume that it says to have published is published, and one that it says to have
unpublished is not. -/
def Answered (paging : Paging) : (request : Request) → List (String × String) → request.Answer →
    List (String × String) → Prop
  | .call (.list request), before, answer, after =>
      after = before ∧ ∀ response, answer = .ok response →
        paging.IsTruthful before request response
  | .call (.publish request), _, answer, after =>
      ∀ response, answer = .ok response → (request.volumeId, request.nodeId) ∈ after
  | .call (.unpublish request), _, answer, after =>
      ∀ response, answer = .ok response → (request.volumeId, request.nodeId) ∉ after
  | _, before, _, after => after = before

end Paging

/-- How far a sweep has come: it has not asked for a page, or it lists, or it has read the
attachments. -/
inductive SweepPhase
  | opening
  | listing
  | comparing
deriving DecidableEq

/-- What is noted of the attachments during a sweep. -/
structure Survey where
  phase : SweepPhase
  /-- Whether an attachment was marked as attached when the first page was asked for. -/
  wasAttached : String → Bool
  /-- Whether it has been newly marked as attached since. -/
  isNew : String → Bool
  /-- Whether it had been by the time when the attachments were read. -/
  isLate : String → Bool

/-- A mark of a sweep that an attachment is detached, with what is noted of the attachment. -/
structure Mark where
  name : String
  wasAttached : Bool
  isNew : Bool
  isLate : Bool
deriving DecidableEq

/-- Whether a mark is of an attachment that was marked as attached when the sweep asked for its
first page, and that has not been newly marked as attached since. -/
def Mark.IsDue (mark : Mark) : Prop :=
  mark.wasAttached ∧ ¬mark.isNew

instance (mark : Mark) : Decidable mark.IsDue :=
  inferInstanceAs (Decidable (_ ∧ _))

namespace Survey

def blank : Survey where
  phase := .opening
  wasAttached _ := false
  isNew _ := false
  isLate _ := false

/-- A page is asked for. -/
def ask (survey : Survey) (isAttached : String → Bool) : Survey :=
  if survey.phase = .opening then { blank with phase := .listing, wasAttached := isAttached }
  else survey

/-- The attachments are read. -/
def read (survey : Survey) : Survey :=
  if survey.phase = .listing then { survey with phase := .comparing, isLate := survey.isNew }
  else survey

/-- Attachments are newly marked as attached. -/
def gain (survey : Survey) (gained : String → Bool) : Survey :=
  { survey with isNew := fun name => survey.isNew name || gained name }

def mark (survey : Survey) (name : String) : Mark :=
  ⟨name, survey.wasAttached name, survey.isNew name, survey.isLate name⟩

end Survey

namespace Annals

/-- Whether an attachment is stored and marked as attached. -/
def isAttached (annals : Annals) (name : String) : Bool :=
  (Table.find? annals.attachments.objects name).any (·.isAttached)

end Annals

/-- The cluster and the driver, with what is noted of the sweep that runs and with the marks of all
sweeps. -/
structure Watch where
  annals : Annals
  published : List (String × String)
  survey : Survey
  marks : List Mark

def Reconciler.Errand.isSweep : Reconciler.Errand → Bool
  | .attachment _ | .volume _ => false
  | .everything => true

namespace Watch

open Reconciler (Errand)

abbrev System : Type :=
  Program.System Request Request.Answer Errand (Except Failure Unit) Watch

/-- The survey once a request has been made: the first page that a sweep asks for opens it. -/
def surveyAsked (watch : Watch) : Errand → Request → Survey
  | .everything, .call (.list _) => watch.survey.ask watch.annals.isAttached
  | _, _ => watch.survey

/-- A watch after a request has been made. -/
def asked (watch : Watch) (errand : Errand) (request : Request) : Watch :=
  { watch with survey := watch.surveyAsked errand request }

/-- The survey once a request has been answered, but for what the answer has changed. -/
def surveyTold (watch : Watch) : Errand → Request → Survey
  | .everything, .attachments => watch.survey.read
  | errand, request => watch.surveyAsked errand request

/-- The marks once a request has been answered. -/
def marksAfter (watch : Watch) : Errand → (request : Request) → request.Answer → List Mark
  | .everything, .writeStatus old new, .ok _ =>
      if new.isAttached then watch.marks else watch.survey.mark old.name :: watch.marks
  | _, _, _ => watch.marks

/-- A watch after an answer that leaves the cluster and the driver in a state. -/
def told (watch : Watch) (errand : Errand) (request : Request) (answer : request.Answer)
    (annals : Annals) (published : List (String × String)) : Watch where
  annals
  published
  survey := (watch.surveyTold errand request).gain fun name =>
    annals.isAttached name && !watch.annals.isAttached name
  marks := watch.marksAfter errand request answer

/-- How a request may be answered by the cluster and a truthful driver. -/
def Answered (paging : Paging) (errand : Errand) (request : Request) (before : Watch)
    (answer : request.Answer) (after : Watch) : Prop :=
  ∃ annals published, after = before.told errand request answer annals published ∧
    Annals.Answered request before.annals answer annals ∧
    paging.Answered request before.published answer published

/-- A change that no call makes: others write and drop objects, but mark no attachment as attached,
and the driver may publish and lose volumes at any time. -/
inductive Changed (before : Watch) : Watch → Prop
  | annals {annals : Annals} (changed : before.annals.Changed annals)
      (unmarking : ∀ name, annals.isAttached name → before.annals.isAttached name) :
      Changed before { before with annals }
  | published (published : List (String × String)) : Changed before { before with published }

end Watch

/-- Whether a survey knows of every attachment that is marked as attached why it is. -/
def Survey.Covers (survey : Survey) (isAttached : String → Bool) : Prop :=
  survey.phase ≠ .opening → ∀ name, isAttached name → survey.wasAttached name ∨ survey.isNew name

/-- Whether a watch is in order, and exactly the late marks are not due. -/
structure Watch.IsSound (watch : Watch) : Prop where
  kept : watch.annals.IsKept
  covers : watch.survey.Covers watch.annals.isAttached
  marks : ∀ mark ∈ watch.marks, mark.IsDue ↔ ¬mark.isLate

namespace Survey

variable {survey : Survey} {isAttached later : String → Bool}

theorem ask_of_asked (asked : survey.phase ≠ .opening) : survey.ask isAttached = survey :=
  if_neg asked

theorem phase_ask (notComparing : survey.phase ≠ .comparing) :
    (survey.ask isAttached).phase = .listing := by
  unfold ask
  split
  next => rfl
  next asked =>
      cases phase : survey.phase with
      | opening => exact absurd phase asked
      | listing => rfl
      | comparing => exact absurd phase notComparing

theorem read_of_listing (listing : survey.phase = .listing) :
    survey.read = { survey with phase := .comparing, isLate := survey.isNew } :=
  if_pos listing

theorem read_of_comparing (comparing : survey.phase = .comparing) : survey.read = survey :=
  if_neg (by simp [comparing])

theorem Covers.ask (covers : survey.Covers isAttached) :
    (survey.ask isAttached).Covers isAttached := by
  unfold Survey.ask
  split
  · exact fun _ _ attached => .inl attached
  · exact covers

theorem Covers.read (covers : survey.Covers isAttached) : survey.read.Covers isAttached := by
  unfold Survey.read
  split
  next listing => exact fun _ => covers (by simp [listing])
  next => exact covers

/-- What is attached now either was before, or has been gained. -/
theorem Covers.gain (covers : survey.Covers isAttached) :
    (survey.gain fun name => later name && !isAttached name).Covers later := by
  intro asked name attached
  cases attachedBefore : isAttached name with
  | true =>
      refine (covers asked name attachedBefore).imp_right fun isNew => ?_
      simp [Survey.gain, isNew]
  | false => exact .inr (by simp [Survey.gain, attached, attachedBefore])

end Survey

namespace Annals

variable {before after : Annals} {copy : VolumeAttachment}

theorem isAttached_of_find? (found : Table.find? before.attachments.objects copy.name = some copy) :
    before.isAttached copy.name = copy.isAttached := by
  simp [isAttached, found]

/-- A version that has been stored at some time is stored after an answer only if it was before. -/
theorem Answered.find?_of_isPast {request : Request} {answer : request.Answer}
    (answered : Answered request before answer after) (isPast : before.attachments.IsPast copy)
    (found : Table.find? after.attachments.objects copy.name = some copy) :
    Table.find? before.attachments.objects copy.name = some copy := by
  cases request with
  | writeAttachment | writeStatus => exact answered.2.find?_of_isPast isPast found
  | writeVolume =>
      rw [← answered.1]
      exact found
  | _ =>
      rw [← answered.eq_of_noWrite rfl]
      exact found

theorem Changed.find?_of_isPast (changed : before.Changed after)
    (isPast : before.attachments.IsPast copy)
    (found : Table.find? after.attachments.objects copy.name = some copy) :
    Table.find? before.attachments.objects copy.name = some copy := by
  cases changed with
  | attachments changed => exact changed.find?_of_isPast isPast found
  | volumes changed => exact found

end Annals

namespace Watch

open Reconciler (Errand)

variable {watch before after : Watch} {errand : Errand} {request : Request}
  {answer : request.Answer} {annals : Annals} {published : List (String × String)}

theorem surveyAsked_of_isSweep_false (noSweep : errand.isSweep = false) :
    watch.surveyAsked errand request = watch.survey := by
  cases errand with
  | attachment | volume => rfl
  | everything => contradiction

theorem surveyAsked_of_asked (asked : watch.survey.phase ≠ .opening) :
    watch.surveyAsked errand request = watch.survey := by
  unfold surveyAsked
  split
  · exact Survey.ask_of_asked asked
  · rfl

theorem surveyTold_of_isSweep_false (noSweep : errand.isSweep = false) :
    watch.surveyTold errand request = watch.survey := by
  cases errand with
  | attachment | volume => rfl
  | everything => contradiction

theorem surveyTold_of_comparing (comparing : watch.survey.phase = .comparing) :
    watch.surveyTold errand request = watch.survey := by
  unfold surveyTold
  split
  · exact Survey.read_of_comparing comparing
  · exact surveyAsked_of_asked (by simp [comparing])

theorem marksAfter_of_isSweep_false (noSweep : errand.isSweep = false) :
    watch.marksAfter errand request answer = watch.marks := by
  cases errand with
  | attachment | volume => rfl
  | everything => contradiction

theorem marksAfter_of_isLook (isLook : request.isLook) :
    watch.marksAfter errand request answer = watch.marks := by
  cases request with
  | writeAttachment | writeStatus | writeVolume => contradiction
  | _ => cases errand <;> rfl

theorem surveyAsked_covers (covers : watch.survey.Covers watch.annals.isAttached) :
    (watch.surveyAsked errand request).Covers watch.annals.isAttached := by
  unfold surveyAsked
  split
  · exact covers.ask
  · exact covers

theorem surveyTold_covers (covers : watch.survey.Covers watch.annals.isAttached) :
    (watch.surveyTold errand request).Covers watch.annals.isAttached := by
  unfold surveyTold
  split
  · exact covers.read
  · exact surveyAsked_covers covers

end Watch

open Simulation

namespace Paging

/-- A driver that lists everything on one page. -/
def singlePage : Paging where
  place _ := 0
  start _ := 0
  start_empty := rfl

def pageOf (published : List (String × String)) : Csi.ListResponse where
  entries := published.map fun pair =>
    { volume := some { volumeId := pair.1 }
      status := some
        { publishedNodeIds := (published.filter fun other => other.1 = pair.1).map Prod.snd } }

theorem pageOf_isTruthful (published : List (String × String)) (request : Csi.ListRequest) :
    singlePage.IsTruthful published request (pageOf published) where
  entries := by
    intro entry entryMem volume same nodeId
    rcases List.mem_map.mp entryMem with ⟨pair, _, rfl⟩
    cases same
    simp
  complete := by
    rintro ⟨volumeId, nodeId⟩ isPublished _ _
    simp only [pageOf, List.mem_map]
    exact ⟨_, ⟨_, isPublished, rfl⟩, _, rfl, rfl⟩

end Paging

namespace Watch

open Paging (singlePage pageOf pageOf_isTruthful)
open Reconciler (Errand)

/-- Answers a request from what is stored. The driver does all that it is asked, and every write but
of a status is refused. -/
def reply (watch : Watch) :
    (request : Request) → request.Answer × Annals × List (String × String)
  | .csiNode _ => (some smallNode, watch.annals, watch.published)
  | .node _ => (none, watch.annals, watch.published)
  | .volume name => ((watch.annals.volumes.past name).getLast?, watch.annals, watch.published)
  | .attachment name =>
      ((watch.annals.attachments.past name).getLast?, watch.annals, watch.published)
  | .attachments =>
      ((Table.values watch.annals.attachments.objects).filter fun attachment =>
        attachment ∈ watch.annals.attachments.past attachment.name,
        watch.annals, watch.published)
  | .volumes => ([], watch.annals, watch.published)
  | .secret _ _ => (.ok none, watch.annals, watch.published)
  | .writeAttachment old _ => (.error (.conflict old.name), watch.annals, watch.published)
  | .writeVolume old _ => (.error (.conflict old.name), watch.annals, watch.published)
  | .writeStatus old new =>
      let (answer, attachments) := watch.annals.attachments.write old
        (fun stored => { stored with status := new.status })
        (toString ((watch.annals.attachments.past old.name).length + 1))
      (answer, { watch.annals with attachments }, watch.published)
  | .call (.publish request) =>
      (Except.ok {}, watch.annals, (request.volumeId, request.nodeId) :: watch.published)
  | .call (.unpublish request) =>
      (Except.ok {}, watch.annals,
        watch.published.filter (· ≠ (request.volumeId, request.nodeId)))
  | .call (.list _) => (Except.ok (pageOf watch.published), watch.annals, watch.published)
  | .currentTime => ({ seconds := 0, nanoseconds := 0 }, watch.annals, watch.published)
  | .enqueue _ _ | .retry _ _ | .forget _ _ => ((), watch.annals, watch.published)

theorem reply_answered (watch : Watch) (request : Request) :
    Annals.Answered request watch.annals (watch.reply request).1 (watch.reply request).2.1 ∧
      singlePage.Answered request watch.published (watch.reply request).1
        (watch.reply request).2.2 := by
  cases request with
  | volume name | attachment name =>
      exact ⟨⟨rfl, fun _ same => List.mem_of_getLast? same⟩, rfl⟩
  | attachments =>
      refine ⟨⟨rfl, fun attachment listed => ?_⟩, rfl⟩
      have known := (List.mem_filter.mp listed).2
      rwa [decide_eq_true_iff] at known
  | volumes => exact ⟨⟨rfl, by simp [reply]⟩, rfl⟩
  | writeAttachment | writeVolume => exact ⟨⟨rfl, .refused _⟩, rfl⟩
  | writeStatus old new => exact ⟨⟨rfl, Chronicle.write_written _ _ _ _⟩, rfl⟩
  | call call =>
      cases call with
      | publish request => exact ⟨rfl, fun _ _ => List.mem_cons_self⟩
      | unpublish request => exact ⟨rfl, fun _ _ => by simp [reply]⟩
      | list request =>
          refine ⟨rfl, rfl, ?_⟩
          rintro response ⟨⟩
          exact pageOf_isTruthful _ _
  | _ => exact ⟨rfl, rfl⟩

/-- Makes a request of a call, and has it answered at once. -/
def respond (errand : Errand) (request : Request) (watch : Watch) : request.Answer × Watch :=
  let asked := watch.asked errand request
  ((asked.reply request).1,
    asked.told errand request (asked.reply request).1 (asked.reply request).2.1
      (asked.reply request).2.2)

theorem respond_answered (errand : Errand) (request : Request) (watch : Watch) :
    Answered singlePage errand request (watch.asked errand request)
      (watch.respond errand request).1 (watch.respond errand request).2 :=
  ⟨_, _, rfl, reply_answered _ request⟩

end Watch

end VolumeAttacher.Reconcile
