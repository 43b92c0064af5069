import VolumeAttacher.Proofs.Queue.Timed

/-!
# Delayed adds are made once and in time

The clock never passes the instant of a delayed add, since a timer is armed for it, and this timer
expires when the clock reaches the instant. So whatever delayed adds are asked for, the key is owed
by some instant that is not after the earliest of them, until a timer that has expired adds it
(`Owes.step`). Each timer that expires is one of a delayed add that was asked for since the last one
expired, and leads to one add.
-/

namespace VolumeAttacher.WorkQueue

namespace Timed

variable {policy : RetryPolicy} {run later : Timed} {key : String} {delay due time : Nat}

theorem suffix_of_not_mem {entry : Nat × Happening} {fresh older earlier : List (Nat × Happening)}
    (happened : entry :: earlier <:+ fresh ++ older) (isOld : entry ∉ fresh) :
    entry :: earlier <:+ older := by
  induction fresh with
  | nil => exact happened
  | cons first fresh ih =>
      rw [List.mem_cons, not_or] at isOld
      rcases List.suffix_cons_iff.mp happened with same | before
      · exact absurd (List.cons.inj same).1 isOld.1
      · exact ih before isOld.2

/-- Only a timer that finds its own instant expires. -/
theorem Reaches.min?_of_expired {earlier : List (Nat × Happening)}
    (reached : (initial policy).Reaches run)
    (happened : (time, .expired key due) :: earlier <:+ run.history) :
    (dues key earlier).min? = some due := by
  induction reached with
  | refl => simp [initial] at happened
  | tail reached step ih =>
      rcases step.notes with ⟨fresh, history, notes⟩
      rw [history] at happened
      cases notes with
      | requests fresh requests =>
          refine ih (suffix_of_not_mem happened ?_)
          intro within
          rcases List.mem_map.mp within with ⟨happening, isFresh, same⟩
          cases same
          exact absurd (requests _ isFresh) Bool.false_ne_true
      | closed => exact ih (suffix_of_not_mem happened (by simp))
      | settled => exact ih (suffix_of_not_mem happened (by simp; split <;> simp))
      | expired other instant armed found =>
          rcases List.suffix_cons_iff.mp happened with same | before
          · have sound := Reaches.sound reached (sound_initial policy)
            simp only [List.cons.injEq, Prod.mk.injEq, Happening.expired.injEq] at same
            rcases same with ⟨⟨rfl, rfl, rfl⟩, rfl⟩
            exact (sound.entry key).symm.trans found
          · exact ih before

theorem Notes.inTime {fresh : List Happening} (notes : run.Notes later fresh) (sound : run.Sound)
    {happening : Happening} (isFresh : happening ∈ fresh)
    (ofTimer : happening.due? = some due) : run.agenda.now = Duration.roundUp due := by
  cases notes with
  | requests fresh requests =>
      have isRequest := requests happening isFresh
      cases happening <;> contradiction
  | closed =>
      cases List.mem_singleton.mp isFresh
      contradiction
  | expired key instant armed found reached =>
      have same : due = instant := by
        rw [List.mem_singleton.mp isFresh] at ofTimer
        exact (Option.some.inj ofTimer).symm
      rw [same]
      exact Nat.le_antisymm (sound.ahead (instant, key) armed) reached
  | settled key instant expired =>
      have same : due = instant := by
        rw [List.mem_singleton.mp isFresh] at ofTimer
        split at ofTimer <;> exact (Option.some.inj ofTimer).symm
      rw [same]
      exact sound.inTime (instant, key) expired

/-- Timers expire when the clock reaches their instants, and their keys are added then. -/
theorem Reaches.inTime (reached : (initial policy).Reaches run) {happening : Happening}
    (happened : (time, happening) ∈ run.history) (ofTimer : happening.due? = some due) :
    time = Duration.roundUp due := by
  induction reached with
  | refl => simp [initial] at happened
  | tail reached step ih =>
      rcases step.notes with ⟨fresh, history, notes⟩
      rw [history, List.mem_append] at happened
      rcases happened with isFresh | earlier
      · rcases List.mem_map.mp isFresh with ⟨other, within, same⟩
        cases same
        exact notes.inTime (Reaches.sound reached (sound_initial policy)) within ofTimer
      · exact ih earlier

/-- The delayed add of a timer that expires was asked for after the one that expired before. -/
theorem exists_asked_of_mem_dues {between older : List (Nat × Happening)} {first other : Nat}
    (within : due ∈ dues key (between ++ (first, .expired key other) :: older)) :
    ∃ time delay, (time, .asked key delay) ∈ between ∧ delay ≠ 0 ∧ time + delay = due := by
  induction between with
  | nil => simp [dues] at within
  | cons entry between ih =>
      rcases entry with ⟨time, happening⟩
      have later (inRest : due ∈ dues key (between ++ (first, .expired key other) :: older)) :
          ∃ start delay, (start, .asked key delay) ∈ (time, happening) :: between ∧ delay ≠ 0 ∧
            start + delay = due := by
        rcases ih inRest with ⟨earlier, delay, asked, isDelayed, same⟩
        exact ⟨earlier, delay, List.mem_cons_of_mem _ asked, isDelayed, same⟩
      cases happening with
      | asked asked delay =>
          simp only [List.cons_append, dues] at within
          split at within
          next isKey =>
              rcases isKey with ⟨rfl, isDelayed⟩
              rcases List.mem_cons.mp within with rfl | inRest
              · exact ⟨time, delay, List.mem_cons_self, isDelayed, rfl⟩
              · exact later inRest
          next => exact later within
      | expired expired =>
          simp only [List.cons_append, dues] at within
          split at within
          · contradiction
          · exact later within
      | added | delivered | dropped | closed => exact later within

/-- What has happened, without the times. -/
def happenings (run : Timed) : List Happening :=
  run.history.map Prod.snd

theorem happenings_append {fresh : List Happening}
    (history : later.history = fresh.map (time, ·) ++ run.history) :
    later.happenings = fresh ++ run.happenings := by
  simp [happenings, history, Function.comp_def]

/-- Each timer that has expired has led to one add, or will before the clock goes on. -/
theorem Reaches.balanced (reached : (initial policy).Reaches run) (key : String) (due : Nat) :
    run.happenings.count (.expired key due) =
      run.happenings.count (.delivered key due) + run.happenings.count (.dropped key due) +
        run.expiries.count (due, key) := by
  induction reached with
  | refl => rfl
  | @tail before after reached step ih =>
      rcases step.notes with ⟨fresh, history, notes⟩
      simp only [happenings_append history, List.count_append]
      cases notes with
      | requests fresh requests closed expiries =>
          have absent (happening : Happening) (other : happening.isRequest = false) :
              fresh.count happening = 0 := by
            refine List.count_eq_zero.mpr fun within => ?_
            rw [requests happening within] at other
            contradiction
          rw [expiries, absent _ rfl, absent _ rfl, absent _ rfl]
          omega
      | closed isClosed expiries =>
          rw [expiries]
          simpa using ih
      | expired other instant armed found reachedNow closed expiries =>
          rw [expiries, List.count_cons]
          by_cases same : other = key ∧ instant = due
          · rcases same with ⟨rfl, rfl⟩
            simp
            omega
          · have different : ¬(instant = due ∧ other = key) := fun isSame =>
              same ⟨isSame.2, isSame.1⟩
            simpa [same, different] using ih
      | settled other instant expired closed expiries =>
          have isExpired := List.count_pos_iff.mpr expired
          rw [expiries, List.count_erase]
          by_cases same : other = key ∧ instant = due
          · rcases same with ⟨rfl, rfl⟩
            cases before.queue.closed <;> simp <;> omega
          · have different : ¬(instant = due ∧ other = key) := fun isSame =>
              same ⟨isSame.2, isSame.1⟩
            cases before.queue.closed <;> simpa [same, different] using ih

/-- A queue that is closed was closed at some time. -/
theorem Step.of_closed (step : run.Step later) (isClosed : later.queue.closed = true) :
    run.queue.closed = true ∨ later.history = run.note .closed := by
  rcases step.notes with ⟨fresh, history, notes⟩
  cases notes with
  | requests _ _ closed | expired _ _ _ _ _ closed | settled _ _ _ closed =>
      exact .inl (closed.symm.trans isClosed)
  | closed => exact .inr history

/-- The key of an expired timer comes too late for a closed queue only. -/
theorem Reaches.isClosed_of_dropped (reached : (initial policy).Reaches run)
    (happened : .dropped key due ∈ run.happenings) : run.queue.closed = true := by
  induction reached with
  | refl => simp [initial, happenings] at happened
  | @tail before after reached step ih =>
      rcases step.notes with ⟨fresh, history, notes⟩
      rw [happenings_append history, List.mem_append] at happened
      cases notes with
      | requests fresh requests closed =>
          rcases happened with isFresh | earlier
          · exact absurd (requests _ isFresh) Bool.false_ne_true
          · exact closed.trans (ih earlier)
      | closed isClosed => exact isClosed
      | expired _ _ _ _ _ closed => exact closed.trans (ih (by simpa using happened))
      | settled _ _ _ closed =>
          cases shut : before.queue.closed with
          | true => exact closed.trans shut
          | false =>
              have earlier : .dropped key due ∈ before.happenings := by simpa [shut] using happened
              exact absurd (shut.symm.trans (ih earlier)) Bool.false_ne_true

/-- Whether a key will be added when a timer for an instant fires, or has fired. -/
def Owes (run : Timed) (key : String) (due : Nat) : Prop :=
  Table.find? run.queue.delayed key = some due ∨ (due, key) ∈ run.expiries

/-- A delayed add is replaced by earlier ones only, and ends with an add. -/
theorem Owes.step (owes : run.Owes key due) (step : run.Step later) :
    (∃ earlier ≤ due, later.Owes key earlier) ∨ later = run.settle (due, key) := by
  have still (same : later.queue.delayed = run.queue.delayed)
      (expiries : (due, key) ∈ run.expiries → (due, key) ∈ later.expiries) :
      ∃ earlier ≤ due, later.Owes key earlier := by
    refine ⟨due, Nat.le_refl _, ?_⟩
    rcases owes with found | expired
    · exact .inl (same ▸ found)
    · exact .inr (expiries expired)
  cases step with
  | use operation plain => exact .inl (still (operation.delayed_of_isPlain plain rfl) id)
  | stir | wait => exact .inl (still rfl id)
  | ask asked delay =>
      left
      have asked := asked_ask run asked delay
      generalize run.ask _ delay = new at asked still ⊢
      cases asked with
      | refused | kept => exact still rfl id
      | atOnce => exact still (sameRest_add run.queue _).delayed id
      | @armed isOpen isDelayed isEarliest =>
          rcases owes with found | expired
          · by_cases same : key = asked
            · subst same
              refine ⟨_, Nat.le_of_lt (isEarliest due found), .inl ?_⟩
              simp
            · refine ⟨due, Nat.le_refl _, .inl ?_⟩
              simpa [same] using found
          · exact ⟨due, Nat.le_refl _, .inr expired⟩
  | fire timer armed reached =>
      left
      refine ⟨due, Nat.le_refl _, ?_⟩
      unfold Timed.fire
      dsimp only
      split
      next foundTimer =>
          rcases owes with found | expired
          · by_cases same : key = timer.2
            · subst same
              cases Option.some.inj (found.symm.trans foundTimer)
              exact .inr List.mem_cons_self
            · refine .inl ?_
              simpa [same] using found
          · exact .inr (List.mem_cons_of_mem _ expired)
      next => exact owes
  | settle timer expired =>
      by_cases same : timer = (due, key)
      · exact .inr (same ▸ rfl)
      · left
        refine still (sameRest_add run.queue timer.2).delayed ?_
        exact (List.mem_erase_of_ne (Ne.symm same)).mpr

/-- What is owed is owed in time. -/
theorem Sound.now_le_of_owes (sound : run.Sound) (owes : run.Owes key due) :
    run.agenda.now ≤ Duration.roundUp due := by
  rcases owes with found | expired
  · exact sound.ahead (due, key) (sound.armed key due found)
  · exact Nat.le_of_eq (sound.inTime (due, key) expired)

/-- What has become of a delayed add that was asked for at some time, by what has happened since:
the key has been added between then and the deadline, or the queue has been closed by the deadline,
or the key is still to be added. -/
inductive Fate (run : Timed) (key : String) (start deadline : Nat)
    (newer : List (Nat × Happening)) : Prop where
  | added (time : Nat) (happening : Happening) (within : (time, happening) ∈ newer)
      (adds : happening.adds key) (notEarly : start ≤ time)
      (notLate : time ≤ Duration.roundUp deadline)
  | closed (time : Nat) (within : (time, .closed) ∈ newer)
      (notLate : time ≤ Duration.roundUp deadline)
  | pending (due : Nat) (dueBy : due ≤ deadline) (owes : run.Owes key due)

/-- A delayed add with what has happened since it was asked for. -/
structure Pursues (run : Timed) (key : String) (start deadline : Nat)
    (newer : List (Nat × Happening)) : Prop where
  fate : run.Fate key start deadline newer
  started : start ≤ run.agenda.now
  shut : run.queue.closed = true → ∃ time ≤ run.agenda.now, (time, .closed) ∈ newer

theorem Step.now_le (step : run.Step later) : run.agenda.now ≤ later.agenda.now := by
  cases step with
  | use | stir | settle => exact Nat.le_refl _
  | wait time isLater => exact isLater
  | ask key delay =>
      have asked := asked_ask run key delay
      generalize run.ask key delay = new at asked ⊢
      cases asked <;> exact Nat.le_refl _
  | fire timer => exact Nat.le_of_eq (now_fire run timer).symm

theorem Pursues.step {start deadline : Nat} {fresh newer : List (Nat × Happening)}
    (pursues : run.Pursues key start deadline newer) (sound : run.Sound) (step : run.Step later)
    (happened : later.history = fresh ++ run.history) :
    later.Pursues key start deadline (fresh ++ newer) := by
  refine ⟨?_, Nat.le_trans pursues.started step.now_le, ?_⟩
  · cases pursues.fate with
    | added time happening within adds notEarly notLate =>
        exact .added time happening (List.mem_append_right _ within) adds notEarly notLate
    | closed time within notLate => exact .closed time (List.mem_append_right _ within) notLate
    | pending due dueBy owes =>
        rcases owes.step step with ⟨earlier, isEarlier, stillOwes⟩ | rfl
        · exact .pending earlier (Nat.le_trans isEarlier dueBy) stillOwes
        · have inTime := Nat.le_trans (sound.now_le_of_owes owes) (Duration.roundUp_mono dueBy)
          cases shut : run.queue.closed with
          | true =>
              rcases pursues.shut shut with ⟨time, earlier, within⟩
              exact .closed time (List.mem_append_right _ within) (Nat.le_trans earlier inTime)
          | false =>
              have delivered : fresh = [(run.agenda.now, .delivered key due)] := by
                refine List.append_cancel_right (happened.symm.trans ?_)
                simp [Timed.settle, note, shut]
              refine .added run.agenda.now (.delivered key due) ?_ rfl pursues.started inTime
              rw [delivered]
              exact List.mem_cons_self
  · intro isClosed
    rcases step.of_closed isClosed with wasClosed | closes
    · rcases pursues.shut wasClosed with ⟨time, earlier, within⟩
      exact ⟨time, Nat.le_trans earlier step.now_le, List.mem_append_right _ within⟩
    · have closing : fresh = [(run.agenda.now, .closed)] :=
        List.append_cancel_right (happened.symm.trans closes)
      refine ⟨run.agenda.now, step.now_le, ?_⟩
      rw [closing]
      exact List.mem_cons_self

theorem Reaches.pursues {start deadline : Nat} {newer : List (Nat × Happening)}
    (pursues : run.Pursues key start deadline newer) (sound : run.Sound)
    (reaches : run.Reaches later) :
    ∃ latest, later.history = latest ++ run.history ∧
      later.Pursues key start deadline (latest ++ newer) := by
  induction reaches with
  | refl => exact ⟨[], rfl, pursues⟩
  | tail reaches step ih =>
      rcases ih with ⟨latest, happened, before⟩
      rcases step.notes with ⟨fresh, now, _⟩
      refine ⟨fresh.map _ ++ latest, by rw [now, happened, List.append_assoc], ?_⟩
      rw [List.append_assoc]
      exact before.step (Reaches.sound reaches sound) step now

/-- A delayed add is made, if the queue is not closed by then. -/
theorem Reaches.exists_adds (reached : (initial policy).Reaches run)
    (isOpen : run.queue.closed = false) (onwards : (run.ask key delay).Reaches later)
    (past : Duration.roundUp (run.agenda.now + delay) < later.agenda.now) :
    ∃ newer, later.history = newer ++ run.history ∧
      ((∃ time happening, (time, happening) ∈ newer ∧ happening.adds key ∧
          run.agenda.now ≤ time ∧ time ≤ Duration.roundUp (run.agenda.now + delay)) ∨
        ∃ time, (time, .closed) ∈ newer ∧
          time ≤ Duration.roundUp (run.agenda.now + delay)) := by
  have sound := Reaches.sound reached (sound_initial policy)
  have asked := asked_ask run key delay
  have soundThen := sound.asked asked
  have begun : ∃ newer, (run.ask key delay).history = newer ++ run.history ∧
      (run.ask key delay).Pursues key run.agenda.now (run.agenda.now + delay) newer := by
    generalize run.ask key delay = new at asked
    cases asked with
    | refused isClosed => simp [isOpen] at isClosed
    | atOnce _ noDelay =>
        refine ⟨[_, _], rfl, ?_, Nat.le_refl _, ?_⟩
        · have inTime := Duration.le_roundUp (run.agenda.now + delay)
          exact .added _ (.added key) List.mem_cons_self rfl (Nat.le_refl _)
            (Nat.le_trans (Nat.le_add_right _ _) inTime)
        · intro isClosed
          have same := (sameRest_add run.queue key).closed.symm.trans isClosed
          simp [isOpen] at same
    | kept _ isDelayed earlier found isEarlier =>
        refine ⟨[_], rfl, .pending earlier isEarlier (.inl found), Nat.le_refl _, ?_⟩
        intro isClosed
        simp [isOpen] at isClosed
    | armed =>
        refine ⟨[_], rfl, .pending _ (Nat.le_refl _) (.inl ?_), Nat.le_refl _, ?_⟩
        · simp
        · intro isClosed
          simp [isOpen] at isClosed
  rcases begun with ⟨newer, asks, pursues⟩
  rcases Reaches.pursues pursues soundThen onwards with ⟨latest, happened, pursuesThen⟩
  refine ⟨latest ++ newer, by rw [happened, asks, List.append_assoc], ?_⟩
  cases pursuesThen.fate with
  | added time happening within adds notEarly notLate =>
      exact .inl ⟨time, happening, within, adds, notEarly, notLate⟩
  | closed time within notLate => exact .inr ⟨time, within, notLate⟩
  | pending due dueBy owes =>
      have inTime := (Reaches.sound onwards soundThen).now_le_of_owes owes
      have bound := Duration.roundUp_mono dueBy
      omega

/-- Of the timers that fire before some time one is the first. -/
theorem exists_first_timer
    (sooner : ¬∀ timer ∈ run.agenda.timers, time ≤ Duration.roundUp timer.1) :
    ∃ instant < time, (∀ timer ∈ run.agenda.timers, instant ≤ Duration.roundUp timer.1) ∧
      ∃ timer ∈ run.agenda.timers, Duration.roundUp timer.1 = instant := by
  simp only [not_forall, Nat.not_le] at sooner
  rcases sooner with ⟨some, isArmed, isSooner⟩
  cases next : run.agenda.next? with
  | none =>
      rw [Agenda.next?, List.min?_eq_none_iff, List.map_eq_nil_iff] at next
      simp [next] at isArmed
  | some instant =>
      rw [Agenda.next?, List.min?_eq_some_iff] at next
      rcases next with ⟨within, isLeast⟩
      have isFirst (timer : Nat × String) (armed : timer ∈ run.agenda.timers) :
          instant ≤ Duration.roundUp timer.1 :=
        isLeast _ (List.mem_map.mpr ⟨timer, armed, rfl⟩)
      exact ⟨instant, Nat.lt_of_le_of_lt (isFirst some isArmed) isSooner, isFirst,
        List.mem_map.mp within⟩

/-- A timer that fires may leave one key to be added. -/
theorem length_fire (run : Timed) {timer : Nat × String} (armed : timer ∈ run.agenda.timers) :
    2 * (run.fire timer).agenda.timers.length + (run.fire timer).expiries.length <
      2 * run.agenda.timers.length + run.expiries.length := by
  have shorter := List.length_erase_of_mem armed
  have some := List.length_pos_of_mem armed
  unfold Timed.fire
  dsimp only
  split
  · simp only [List.length_cons]
    omega
  · dsimp only
    omega

/-- Whatever has been asked for, timers fire one by one and the clock gets to any later time. A
timer that fires leaves one key to be added at most, and an add leaves nothing. -/
theorem Sound.exists_reaches (sound : run.Sound) (isLater : run.agenda.now ≤ time) :
    ∃ later, run.Reaches later ∧ later.agenda.now = time := by
  generalize left : 2 * run.agenda.timers.length + run.expiries.length = work
  induction work using Nat.strongRecOn generalizing run with
  | ind work ih =>
      cases expired : run.expiries with
      | cons timer rest =>
          have isExpired : timer ∈ run.expiries := expired ▸ List.mem_cons_self
          have step : run.Step (run.settle timer) := .settle timer isExpired
          have less : 2 * (run.settle timer).agenda.timers.length +
              (run.settle timer).expiries.length < work := by
            have shorter := List.length_erase_of_mem isExpired
            rw [expired, List.length_cons] at left shorter
            simp only [Timed.settle, expired]
            omega
          rcases ih _ less (sound.step step) isLater rfl with ⟨later, reaches, arrived⟩
          exact ⟨later, .head step reaches, arrived⟩
      | nil =>
          by_cases noneSkipped : ∀ timer ∈ run.agenda.timers, time ≤ Duration.roundUp timer.1
          · exact ⟨_, .single (.wait time isLater expired noneSkipped), rfl⟩
          · rcases exists_first_timer noneSkipped with
              ⟨instant, isSooner, isFirst, timer, armed, reached⟩
            have isNow : run.agenda.now ≤ instant := reached ▸ sound.ahead timer armed
            have waits : run.Step (run.waitUntil instant) := .wait instant isNow expired isFirst
            have fires : (run.waitUntil instant).Step ((run.waitUntil instant).fire timer) :=
              .fire timer armed (Nat.le_of_eq reached)
            have less := length_fire (run.waitUntil instant) armed
            have notPast : ((run.waitUntil instant).fire timer).agenda.now ≤ time := by
              rw [now_fire]
              exact Nat.le_of_lt isSooner
            rcases ih _ (Nat.lt_of_lt_of_eq less left) ((sound.step waits).step fires) notPast rfl
              with ⟨later, reaches, arrived⟩
            exact ⟨later, .head waits (.head fires reaches), arrived⟩

/-- How the delayed adds of a key are kept, at some time of a run. -/
structure Punctual (run : Timed) (key : String) : Prop where
  /-- The delayed add is the earliest that was asked for since a timer of the key expired, and there
  is none if none was asked for. -/
  entry : Table.find? run.queue.delayed key = (dues key run.history).min?
  /-- Some timer is armed for the delayed add, and the clock has not passed its instant. -/
  armed : ∀ due, Table.find? run.queue.delayed key = some due →
    (due, key) ∈ run.agenda.timers ∧ run.agenda.now ≤ Duration.roundUp due
  /-- A timer for another instant than that of the delayed add does nothing. -/
  superseded : ∀ due, Table.find? run.queue.delayed key ≠ some due →
    (run.fire (due, key)).queue = run.queue ∧ (run.fire (due, key)).expiries = run.expiries ∧
      (run.fire (due, key)).history = run.history
  /-- So the timers that expired were those of what was the delayed add then. -/
  current : ∀ time due earlier, (time, .expired key due) :: earlier <:+ run.history →
    (dues key earlier).min? = some due
  /-- They expired when the clock reached their instants, and their keys were added then. -/
  inTime : ∀ time happening due, (time, happening) ∈ run.history → happening.due? = some due →
    time = Duration.roundUp due
  /-- Each timer that expired has led to one add, or the clock stands still until it does. An add
  comes too late for a closed queue only. -/
  once : ∀ due, run.happenings.count (.expired key due) =
    run.happenings.count (.delivered key due) + run.happenings.count (.dropped key due) +
      run.expiries.count (due, key)
  dropped : ∀ due, .dropped key due ∈ run.happenings → run.queue.closed = true
  /-- Of two timers of the key that expired, the later one is that of a delayed add that was asked
  for in between. -/
  renewed : ∀ time due first other between older,
    (time, .expired key due) :: (between ++ (first, .expired key other) :: older) <:+
      run.history →
    ∃ start delay, (start, .asked key delay) ∈ between ∧ delay ≠ 0 ∧ start + delay = due
  /-- What is asked for now will be added between now and the time when it is due, unless the queue
  is closed by then. -/
  answered : ∀ delay later, run.queue.closed = false → (run.ask key delay).Reaches later →
    Duration.roundUp (run.agenda.now + delay) < later.agenda.now →
    ∃ newer, later.history = newer ++ run.history ∧
      ((∃ time happening, (time, happening) ∈ newer ∧ happening.adds key ∧
          run.agenda.now ≤ time ∧ time ≤ Duration.roundUp (run.agenda.now + delay)) ∨
        ∃ time, (time, .closed) ∈ newer ∧
          time ≤ Duration.roundUp (run.agenda.now + delay))
  /-- The clock gets to any later time. -/
  goesOn : ∀ time, run.agenda.now ≤ time → ∃ later, run.Reaches later ∧ later.agenda.now = time

/-- Of the delayed adds of a key the earliest is kept, and it is made once and in time. -/
theorem Reaches.punctual (reached : (initial policy).Reaches run) (key : String) :
    run.Punctual key := by
  have sound := Reaches.sound reached (sound_initial policy)
  refine
    { entry := sound.entry key
      armed := ?_
      superseded := ?_
      current := fun time due earlier happened => reached.min?_of_expired happened
      inTime := fun time happening due happened ofTimer => reached.inTime happened ofTimer
      once := reached.balanced key
      dropped := fun due happened => reached.isClosed_of_dropped happened
      renewed := ?_
      answered := fun delay later isOpen onwards past => reached.exists_adds isOpen onwards past
      goesOn := fun time isLater => sound.exists_reaches isLater }
  · intro due found
    have armed := sound.armed key due found
    exact ⟨armed, sound.ahead (due, key) armed⟩
  · intro due superseded
    unfold Timed.fire
    dsimp only
    rw [if_neg superseded]
    exact ⟨rfl, rfl, rfl⟩
  · intro time due first other between older happened
    have least := reached.min?_of_expired happened
    exact exists_asked_of_mem_dues (List.min?_mem least)

/-- A delayed add is replaced by an earlier one, whose key is asked for again with the delay that
leads to the instant of the first. Two timers fire then, and the key is added once. -/
theorem Reaches.punctual_of_same_instant :
    ∃ run, (initial ⟨5, 1000⟩).Reaches run ∧ run.Punctual "a" ∧ run.agenda.timers = [] ∧
      run.happenings = [.delivered "a" 30000000, .expired "a" 30000000, .asked "a" 20000000,
        .delivered "a" 10000000, .expired "a" 10000000, .asked "a" 10000000,
        .asked "a" 30000000] := by
  have asked : (initial ⟨5, 1000⟩).Reaches _ := .single (.ask "a" 30000000)
  have sooner := asked.tail (.ask "a" 10000000)
  have waited := sooner.tail (.wait 10000000 (by decide) rfl (by decide))
  have expired := waited.tail (.fire (10000000, "a") (by decide) (by decide))
  have added := expired.tail (.settle (10000000, "a") (by decide))
  have again := added.tail (.ask "a" 20000000)
  have waitedAgain := again.tail (.wait 30000000 (by decide) (by decide) (by decide))
  have first := waitedAgain.tail (.fire (30000000, "a") (by decide) (by decide))
  have second := first.tail (.fire (30000000, "a") (by decide) (by decide))
  have reached := second.tail (.settle (30000000, "a") (by decide))
  exact ⟨_, reached, Reaches.punctual reached "a", by decide, by decide⟩

end Timed

end VolumeAttacher.WorkQueue
