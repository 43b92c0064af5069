import VolumeAttacher.Proofs.Cluster.Simulated
import VolumeAttacher.Proofs.Reconcile.Secrecy

/-!
# Two clusters with different secrets

Two simulated clusters that are the same through the veil answer requests alike and stay the same
through it, since answering commutes with veiling. Neither need their clocks agree on the time of
day. So the calls of a reconciler, one after the other, leave the same in both: the writes, the
results, the queues, and all that the driver is sent but the secrets.
-/

namespace VolumeAttacher

namespace Table

variable {α β : Type} (f : α → β)

theorem find?_mapValues (table : Table α) (name : String) :
    find? (mapValues f table) name = (find? table name).map f := by
  induction table with
  | nil => rfl
  | cons entry rest ih =>
      rcases entry with ⟨key, value⟩
      change find? ((key, f value) :: mapValues f rest) name = _
      rw [find?_cons, find?_cons, ih]
      split <;> rfl

theorem mapValues_insert (table : Table α) (name : String) (value : α) :
    mapValues f (insert table name value) = insert (mapValues f table) name (f value) := by
  induction table with
  | nil => rfl
  | cons entry rest ih =>
      rcases entry with ⟨key, old⟩
      change mapValues f (insert ((key, old) :: rest) name value) =
        insert ((key, f old) :: mapValues f rest) name (f value)
      unfold insert
      split
      · rfl
      · split
        · rfl
        · exact congrArg ((key, f old) :: ·) ih

theorem mapValues_erase (table : Table α) (name : String) :
    mapValues f (erase table name) = erase (mapValues f table) name := by
  simp [mapValues, erase, List.filter_map, Function.comp_def]

end Table

namespace Shelf

variable (shelf : Shelf VolumeAttachment) (name : String)

/-- The shelf with the errors of its attachments without their times. -/
def untimed : Shelf VolumeAttachment :=
  { shelf with objects := Table.mapValues VolumeAttachment.untimed shelf.objects }

theorem find?_untimed : shelf.untimed.find? name = (shelf.find? name).map .untimed :=
  Table.find?_mapValues _ _ _

theorem put_untimed (attachment : VolumeAttachment) :
    shelf.untimed.put name attachment.untimed =
      ((shelf.put name attachment).1.untimed, (shelf.put name attachment).2.untimed) := by
  simp only [put, untimed, Table.mapValues_insert]
  rfl

theorem dropFinished_untimed (attachment : VolumeAttachment) :
    shelf.untimed.dropFinished name attachment.untimed =
      (shelf.dropFinished name attachment).untimed := by
  have finished : isFinished attachment.untimed = isFinished attachment := rfl
  unfold dropFinished
  rw [finished]
  split
  · simp only [remove, untimed, Table.mapValues_erase]
  · rfl

theorem target_untimed (fault : Fault) (old : VolumeAttachment) :
    shelf.untimed.target name fault old.untimed =
      (shelf.target name fault old).map VolumeAttachment.untimed := by
  unfold target
  rw [find?_untimed]
  cases shelf.find? name with
  | none => rfl
  | some stored =>
      have refusals : refusal? stored.untimed fault old.untimed = refusal? stored fault old := rfl
      simp only [Option.map_some, refusals]
      cases refusal? stored fault old <;> rfl

end Shelf

/-- The change of an attachment with its errors without their times. -/
def Change.untimed : Change VolumeAttachment → Change VolumeAttachment
  | added attachment => .added attachment.untimed
  | updated old new => .updated old.untimed new.untimed
  | deleted attachment => .deleted attachment.untimed

namespace Store

/-- The store without what its secrets contain and the times in error records. -/
def veiled (store : Store) : Store :=
  { store with
    attachments := store.attachments.untimed
    secrets := store.secrets.map fun entry => (entry.1, entry.2.veiled) }

/-- The outcome of a write of an attachment without the times in error records. -/
def Outcome.untimed (outcome : Outcome VolumeAttachment) : Outcome VolumeAttachment :=
  outcome.map fun written => (written.1.untimed, written.2.untimed)

variable (store : Store)

theorem takeFault_veiled :
    store.veiled.takeFault = (store.takeFault.1, store.takeFault.2.veiled) := by
  rcases store with ⟨_, _, _, _, _, faults, _⟩
  cases faults <;> rfl

theorem target_veiled (fault : Fault) (old : VolumeAttachment) :
    store.veiled.attachments.target old.untimed.name fault old.untimed =
      (store.attachments.target old.name fault old).map VolumeAttachment.untimed :=
  Shelf.target_untimed _ _ _ _

theorem put_veiled (old new : VolumeAttachment) :
    store.veiled.attachments.put old.untimed.name new.untimed =
      ((store.attachments.put old.name new).1.untimed,
        (store.attachments.put old.name new).2.untimed) :=
  Shelf.put_untimed _ _ new

theorem writeStatus_veiled (old new : VolumeAttachment) :
    store.veiled.writeStatus old.untimed new.untimed =
      (Outcome.untimed (store.writeStatus old new).1, (store.writeStatus old new).2.veiled) := by
  unfold writeStatus
  rw [takeFault_veiled]
  rcases store.takeFault with ⟨fault, store⟩
  dsimp only
  rw [target_veiled]
  cases store.attachments.target old.name fault old with
  | error refusal => rfl
  | ok stored =>
      have put : store.veiled.attachments.put old.untimed.name
          { stored.untimed with status := new.untimed.status } = _ :=
        store.put_veiled old { stored with status := new.status }
      dsimp only [Except.map]
      rw [put]
      rfl

theorem writeAttachment_veiled (old new : VolumeAttachment) :
    store.veiled.writeAttachment old.untimed new.untimed =
      (Outcome.untimed (store.writeAttachment old new).1,
        (store.writeAttachment old new).2.veiled) := by
  unfold writeAttachment
  rw [takeFault_veiled]
  rcases store.takeFault with ⟨fault, store⟩
  dsimp only
  rw [target_veiled]
  cases store.attachments.target old.name fault old with
  | error refusal => rfl
  | ok stored =>
      have put : store.veiled.attachments.put old.untimed.name
          { new.untimed with status := stored.untimed.status } = _ :=
        store.put_veiled old { new with status := stored.status }
      dsimp only [Except.map]
      rw [put]
      rcases store.attachments.put old.name { new with status := stored.status } with
        ⟨written, attachments⟩
      have dropped := attachments.dropFinished_untimed old.name written
      have finished : Shelf.isFinished written.untimed = Shelf.isFinished written := rfl
      have names : old.untimed.name = old.name := rfl
      dsimp only
      rw [names, dropped, finished]
      cases Shelf.isFinished written <;> rfl

theorem writeVolume_veiled (old new : PersistentVolume) :
    store.veiled.writeVolume old new =
      ((store.writeVolume old new).1, (store.writeVolume old new).2.veiled) := by
  unfold writeVolume
  rw [takeFault_veiled]
  rcases store.takeFault with ⟨fault, store⟩
  have target : store.veiled.volumes.target old.name fault old =
      store.volumes.target old.name fault old := rfl
  dsimp only
  rw [target]
  cases store.volumes.target old.name fault old <;> rfl

theorem secret?_veiled (space name : String) :
    store.veiled.secret? space name = (store.secret? space name).map Secret.veiled := by
  unfold secret? veiled
  dsimp only
  induction store.secrets with
  | nil => rfl
  | cons entry rest ih =>
      rcases entry with ⟨key, secret⟩
      rw [List.map_cons, List.lookup_cons, List.lookup_cons, ih]
      cases (space, name) == key <;> rfl

end Store

namespace Agenda

/-- Time passes alike for two things if one is an image of the other. -/
theorem map_pass {α σ τ : Type} (view : σ → τ) {agenda : σ → Agenda α} {agendaSeen : τ → Agenda α}
    {setAgenda : Agenda α → σ → σ} {setAgendaSeen : Agenda α → τ → τ}
    {react : List (Nat × α) → σ → σ} {reactSeen : List (Nat × α) → τ → τ}
    (agendas : ∀ state, agendaSeen (view state) = agenda state)
    (sets : ∀ later state, view (setAgenda later state) = setAgendaSeen later (view state))
    (reacts : ∀ fired state, view (react fired state) = reactSeen fired (view state))
    (limit : Nat) (state : σ) :
    view (pass agenda setAgenda react limit state) =
      pass agendaSeen setAgendaSeen reactSeen limit (view state) := by
  have finished (state : σ) : view (pass.finish agenda setAgenda limit state) =
      pass.finish agendaSeen setAgendaSeen limit (view state) := by
    unfold pass.finish
    rw [sets, agendas]
  unfold pass
  rw [agendas]
  generalize Duration.wholeMillis (limit - (agenda state).now) + 1 = times
  induction times generalizing state with
  | zero => exact finished state
  | succ times ih =>
      unfold pass.go
      rw [agendas]
      cases (agenda state).step? limit with
      | none => exact finished state
      | some stop =>
          dsimp only
          rw [ih, reacts, sets]

end Agenda

namespace Simulation

open Reconcile

/-- The record of a write without the times in error records. -/
def WriteRecord.untimed : WriteRecord → WriteRecord
  | attachment name outcome => .attachment name (outcome.map VolumeAttachment.untimed)
  | status name outcome => .status name (outcome.map VolumeAttachment.untimed)
  | volume name outcome => .volume name outcome

/-- The change without the times in error records. -/
def Event.untimed : Event → Event
  | attachment change => .attachment change.untimed
  | volume change => .volume change

namespace World

/-- The world without what secrets contain, the secrets of calls and the times in error records. -/
def veiled (world : World) : World :=
  { world with
    store := world.store.veiled
    calls := world.calls.map Csi.Call.veiled
    writes := world.writes.map WriteRecord.untimed
    events := world.events.map Event.untimed }

variable (world : World)

theorem queue_veiled (name : QueueName) : world.veiled.queue name = world.queue name := by
  cases name <;> rfl

theorem setQueue_veiled (name : QueueName) (queue : WorkQueue) :
    world.veiled.setQueue name queue = (world.setQueue name queue).veiled := by
  cases name <;> rfl

theorem retry_veiled (name : QueueName) (key : String) :
    world.veiled.retry name key = (world.retry name key).veiled := by
  unfold retry
  rw [queue_veiled]
  dsimp only
  rw [setQueue_veiled]
  rfl

theorem fire_veiled (due : Nat) (alarm : Alarm) :
    world.veiled.fire due alarm = (world.fire due alarm).veiled := by
  cases alarm with
  | delayedAdd name key =>
      unfold fire
      dsimp only
      rw [queue_veiled, setQueue_veiled]
  | resync | reconcile => rfl

theorem elapse_veiled (duration : Nat) :
    (world.elapse duration).veiled = world.veiled.elapse duration := by
  apply Agenda.map_pass
  · intro _
    rfl
  · intro _ _
    rfl
  · intro fired world
    induction fired generalizing world with
    | nil => rfl
    | cons timer fired ih =>
        rw [List.foldl_cons, List.foldl_cons, ih, fire_veiled]

theorem readSecret_veiled (store : Store) (space name : String) :
    readSecret store.veiled space name =
      (readSecret store space name).map (Option.map Secret.veiled) := by
  unfold readSecret
  rw [store.secret?_veiled]
  cases unreadable : store.secretsUnreadable <;> simp [Store.veiled, unreadable, Except.map]

theorem written_untimed (kind : ObjectKind) (name : String)
    (outcome : Store.Outcome VolumeAttachment) :
    written kind name (Store.Outcome.untimed outcome) =
      (written kind name outcome).map VolumeAttachment.untimed := by
  cases outcome <;> rfl

theorem changeOf_untimed (outcome : Store.Outcome VolumeAttachment) :
    (changeOf (Store.Outcome.untimed outcome)).map Event.attachment =
      ((changeOf outcome).map Event.attachment).map Event.untimed := by
  cases outcome <;> rfl

theorem map_fst_untimed (outcome : Store.Outcome VolumeAttachment) :
    (Store.Outcome.untimed outcome).map Prod.fst =
      (outcome.map Prod.fst).map VolumeAttachment.untimed := by
  cases outcome <;> rfl

theorem logWrite_veiled (record : WriteRecord) (events : List Event) (store : Store) :
    world.veiled.logWrite record.untimed (events.map Event.untimed) store.veiled =
      (world.logWrite record events store).veiled := by
  simp [logWrite, veiled]

/-- Answering commutes with veiling, but for the time of day. -/
theorem answer_veiled (request : Request) (noTime : request ≠ .currentTime) :
    HEq (request.veilAnswer (answer request world).1)
        (answer request.veiled world.veiled).1 ∧
      (answer request world).2.veiled = (answer request.veiled world.veiled).2 := by
  cases request with
  | csiNode name | node name | volume name | volumes => exact ⟨.rfl, rfl⟩
  | attachment name =>
      exact ⟨heq_of_eq (Shelf.find?_untimed _ _).symm, rfl⟩
  | attachments =>
      refine ⟨heq_of_eq ?_, rfl⟩
      change (Table.values world.store.attachments.objects).map VolumeAttachment.untimed =
        Table.values (Table.mapValues VolumeAttachment.untimed world.store.attachments.objects)
      simp [Table.values, Table.mapValues]
  | secret space name => exact ⟨heq_of_eq (readSecret_veiled _ _ _).symm, rfl⟩
  | writeAttachment old new =>
      have stored : world.veiled.store.writeAttachment old.untimed new.untimed = _ :=
        world.store.writeAttachment_veiled old new
      simp only [answer, Request.veiled, stored]
      refine ⟨heq_of_eq (written_untimed _ _ _).symm, ?_⟩
      rw [changeOf_untimed, map_fst_untimed]
      exact (world.logWrite_veiled (.attachment old.name _) _ _).symm
  | writeStatus old new =>
      have stored : world.veiled.store.writeStatus old.untimed new.untimed = _ :=
        world.store.writeStatus_veiled old new
      simp only [answer, Request.veiled, stored]
      refine ⟨heq_of_eq (written_untimed _ _ _).symm, ?_⟩
      rw [changeOf_untimed, map_fst_untimed]
      exact (world.logWrite_veiled (.status old.name _) _ _).symm
  | writeVolume old new =>
      have stored : world.veiled.store.writeVolume old new = _ :=
        world.store.writeVolume_veiled old new
      simp only [answer, Request.veiled, stored]
      refine ⟨.rfl, ?_⟩
      have changes (outcome : Store.Outcome PersistentVolume) :
          (changeOf outcome).map Event.volume =
            ((changeOf outcome).map Event.volume).map Event.untimed := by
        cases outcome <;> rfl
      rw [← logWrite_veiled, ← changes]
      rfl
  | call call =>
      cases call with
      | publish _ | unpublish _ | list _ =>
          refine ⟨.rfl, ?_⟩
          simp [answer, veiled, Request.veiled, Csi.Call.veiled, Script.answer]
  | currentTime => contradiction
  | enqueue name key =>
      refine ⟨.rfl, ?_⟩
      simp only [answer, Request.veiled, enqueue, queue_veiled, setQueue_veiled]
  | retry name key => exact ⟨.rfl, (world.retry_veiled name key).symm⟩
  | forget name key =>
      refine ⟨.rfl, ?_⟩
      simp only [answer, Request.veiled, forget, queue_veiled, setQueue_veiled]

/-- How a world answers a request when its clock may show any time of day. -/
def Answered : (request : Request) → World → request.Answer → World → Prop
  | .currentTime, before, _, after => after = before
  | request, before, answer, after => before.answer request = (answer, after)

theorem answered_iff {request : Request} (noTime : request ≠ .currentTime) {before after : World}
    {answer : request.Answer} :
    Answered request before answer after ↔ before.answer request = (answer, after) := by
  cases request with
  | currentTime => contradiction
  | _ => exact Iff.rfl

theorem veil_isUpheld :
    veil.IsUpheld Answered fun world other => world.veiled = other.veiled := by
  intro request other alike before beforeOther told toldOther after afterOther same answered
    answeredOther
  by_cases isTime : request = .currentTime
  · subst isTime
    have isTime : other = .currentTime := by
      cases other with
      | currentTime => rfl
      | _ => contradiction
    subst isTime
    cases answered
    cases answeredOther
    exact ⟨.rfl, same⟩
  · have noTime : other ≠ .currentTime := by
      rintro rfl
      cases request with
      | currentTime => contradiction
      | _ => contradiction
    rw [answered_iff isTime] at answered
    rw [answered_iff noTime] at answeredOther
    have seen := before.answer_veiled request isTime
    have seenOther := beforeOther.answer_veiled other noTime
    rw [answered] at seen
    rw [answeredOther, ← same, ← alike] at seenOther
    exact ⟨seen.1.trans seenOther.1.symm, seen.2.trans seenOther.2.symm⟩

/-- What is performed in a world is one of the ways in which it may be answered. -/
theorem exists_makes_perform {α : Type} (action : Action α) :
    ∃ requests, action.run.Makes Answered world requests (world.perform action).1
      (world.perform action).2 := by
  have answers (request : Request) (world : World) (_ : True) :
      Answered request world (answer request world).1 (answer request world).2 ∧ True := by
    refine ⟨?_, trivial⟩
    cases request <;> rfl
  exact (Program.ends_iff_makes _).mp (Program.ends_run id answers action.run trivial)

end World

/-- What happens one after the other: a call of a reconciler, or a change by anyone else. -/
inductive Turn where
  | call (errand : Reconciler.Errand)
  | meanwhile (change : World → World)

/-- Two turns that cannot be told apart through the veil. -/
inductive Turn.Alike : Turn → Turn → Prop
  | call {errand other : Reconciler.Errand} (alike : errand.Alike other) :
      Alike (.call errand) (.call other)
  | meanwhile {change other : World → World}
      (alike : ∀ world worldOther : World, world.veiled = worldOther.veiled →
        (change world).veiled = (other worldOther).veiled) :
      Alike (.meanwhile change) (.meanwhile other)

theorem Turn.elapse_alike (duration : Nat) :
    Alike (.meanwhile (·.elapse duration)) (.meanwhile (·.elapse duration)) := by
  apply Alike.meanwhile
  intro world worldOther same
  rw [World.elapse_veiled, World.elapse_veiled, same]

/-- The courses that a list of turns may take in a world: the requests that the calls make, the
results with which they end, and the world at the end. -/
inductive Course (reconciler : Reconciler) :
    World → List Turn → List Request → List (Except Failure Unit) → World → Prop
  | finished (world : World) : Course reconciler world [] [] [] world
  | call {errand : Reconciler.Errand} {world middle after : World} {turns : List Turn}
      {made requests : List Request} {result : Except Failure Unit}
      {results : List (Except Failure Unit)}
      (makes : (errand.work reconciler).run.Makes World.Answered world made result middle)
      (rest : Course reconciler middle turns requests results after) :
      Course reconciler world (.call errand :: turns) (made ++ requests) (result :: results) after
  | meanwhile {change : World → World} {world after : World} {turns : List Turn}
      {requests : List Request} {results : List (Except Failure Unit)}
      (rest : Course reconciler (change world) turns requests results after) :
      Course reconciler world (.meanwhile change :: turns) requests results after

variable {reconciler : Reconciler}

theorem Course.veiled_eq {world worldOther after afterOther : World}
    {turns turnsOther : List Turn} {requests requestsOther : List Request}
    {results resultsOther : List (Except Failure Unit)}
    (course : Course reconciler world turns requests results after)
    (courseOther : Course reconciler worldOther turnsOther requestsOther resultsOther afterOther)
    (alike : List.Forall₂ Turn.Alike turns turnsOther) (same : world.veiled = worldOther.veiled) :
    requests.map Request.veiled = requestsOther.map Request.veiled ∧ results = resultsOther ∧
      after.veiled = afterOther.veiled := by
  induction course generalizing worldOther turnsOther requestsOther resultsOther with
  | finished world =>
      cases alike
      cases courseOther
      exact ⟨rfl, rfl, same⟩
  | @call errand world middle after turns made requests result results makes rest ih =>
      cases alike with
      | cons turn restAlike =>
          cases turn with
          | call errands =>
              cases courseOther with
              | @call _ _ middleOther _ _ madeOther _ resultOther _ makesOther restOther =>
                  rcases errands.lockstep.makes World.veil_isUpheld same makes makesOther with
                    ⟨madeAlike, ended, sameMiddle⟩
                  have madeSeen : made.map Request.veiled = madeOther.map Request.veiled := by
                    rw [← List.forall₂_eq_eq_eq, List.forall₂_map_left_iff,
                      List.forall₂_map_right_iff]
                    exact madeAlike
                  have sameResult : result = resultOther := by
                    cases ended <;> rfl
                  rcases ih restOther restAlike sameMiddle with ⟨seen, sameResults, sameAfter⟩
                  refine ⟨?_, ?_, sameAfter⟩
                  · rw [List.map_append, List.map_append, madeSeen, seen]
                  · rw [sameResult, sameResults]
  | meanwhile rest ih =>
      cases alike with
      | cons turn restAlike =>
          cases turn with
          | meanwhile changes =>
              cases courseOther with
              | meanwhile restOther => exact ih restOther restAlike (changes _ _ same)

/-- What secrets contain goes to the driver only. In two worlds that differ in it at most, let the
same calls be made one after the other, and let the same happen in between, as far as it can be seen
through the veil; the driver has the same answers for both, and their clocks may show any time of
day. Then the calls end with the same results and failures; but for the times in error records, the
same writes are tried with the same outcome; both queues are the same; and but for the secrets, the
driver is sent the same. All requests, in their order, and all that both worlds hold at the end, are
the same through the veil. -/
theorem Course.hides_secrets {world worldOther after afterOther : World}
    {turns turnsOther : List Turn} {requests requestsOther : List Request}
    {results resultsOther : List (Except Failure Unit)}
    (same : world.veiled = worldOther.veiled) (alike : List.Forall₂ Turn.Alike turns turnsOther)
    (course : Course reconciler world turns requests results after)
    (courseOther :
      Course reconciler worldOther turnsOther requestsOther resultsOther afterOther) :
    results = resultsOther ∧
      after.writes.map WriteRecord.untimed = afterOther.writes.map WriteRecord.untimed ∧
      (∀ name, after.queue name = afterOther.queue name) ∧
      after.calls.map Csi.Call.veiled = afterOther.calls.map Csi.Call.veiled ∧
      requests.map Request.veiled = requestsOther.map Request.veiled ∧
      after.veiled = afterOther.veiled := by
  rcases course.veiled_eq courseOther alike same with ⟨requestsAlike, sameResults, sameAfter⟩
  refine ⟨sameResults, congrArg World.writes sameAfter, ?_, congrArg World.calls sameAfter,
    requestsAlike, sameAfter⟩
  intro name
  rw [← after.queue_veiled, sameAfter, World.queue_veiled]

/-- The small cluster with a volume that takes a password to attach. -/
def lockedWorld (password : List UInt8) : World :=
  let reference : SecretReference := { name := some "login", space := some "vault" }
  let spec := smallVolume.spec.map fun spec =>
    { spec with
      csi := spec.csi.map fun source =>
        { source with controllerPublishSecretRef := some reference } }
  let world := (smallCluster {}).world
  { world with
    store :=
      { world.store with
        volumes := { objects := [("pv-1", { smallVolume with spec })], versions := [("pv-1", 1)] }
        secrets :=
          [(("vault", "login"),
            { metadata := { name := some "login" }, data := some [("password", password)] })] } }

/-- The attachment of the small cluster is attached with two passwords. -/
theorem hides_secrets_of_passwords :
    ∃ requests requestsOther results resultsOther after afterOther,
      Course smallReconciler (lockedWorld [97])
          [.call (.attachment smallAttachment), .meanwhile (·.elapse 1000)] requests results
          after ∧
        Course smallReconciler (lockedWorld [98])
          [.call (.attachment smallAttachment), .meanwhile (·.elapse 1000)] requestsOther
          resultsOther afterOther ∧
        after.calls ≠ afterOther.calls ∧
        results = resultsOther ∧
        after.writes.map WriteRecord.untimed = afterOther.writes.map WriteRecord.untimed ∧
        (∀ name, after.queue name = afterOther.queue name) ∧
        after.calls.map Csi.Call.veiled = afterOther.calls.map Csi.Call.veiled ∧
        requests.map Request.veiled = requestsOther.map Request.veiled ∧
        after.veiled = afterOther.veiled := by
  let work := (Reconciler.Errand.attachment smallAttachment).work smallReconciler
  have courses (password : List UInt8) : ∃ requests results,
      Course smallReconciler (lockedWorld password)
        [.call (.attachment smallAttachment), .meanwhile (·.elapse 1000)] requests results
        (((lockedWorld password).perform work).2.elapse 1000) := by
    rcases (lockedWorld password).exists_makes_perform work with ⟨made, makes⟩
    exact ⟨_, _, .call makes (.meanwhile (.finished _))⟩
  rcases courses [97] with ⟨requests, results, course⟩
  rcases courses [98] with ⟨requestsOther, resultsOther, courseOther⟩
  have differ : (((lockedWorld [97]).perform work).2.elapse 1000).calls ≠
      (((lockedWorld [98]).perform work).2.elapse 1000).calls := by
    decide +kernel
  have same : (lockedWorld [97]).veiled = (lockedWorld [98]).veiled := rfl
  have hidden := Course.hides_secrets same
    (.cons (.call (.attachment rfl)) (.cons (Turn.elapse_alike 1000) .nil)) course courseOther
  exact ⟨_, _, _, _, _, _, course, courseOther, differ, hidden⟩

end Simulation

end VolumeAttacher
