import VolumeAttacher.Proofs.Queue.Punctuality
import VolumeAttacher.Scenario.Queue

/-!
# Runs of a queue keep time

What a run of a queue does is one of the courses that its timers allow: the clock stops at each
instant at which timers fire, the timers that fire then do so one after another in the order in
which they were set, each adding its key at once, and workers and the user act in between. The bound
on the number of stops suffices, since the clock goes on by a millisecond at least from one to the
next.
-/

namespace VolumeAttacher.Simulation.QueueRun

open WorkQueue (Timed Operation Handout)

variable {run new other : QueueRun} {timed later : Timed}

/-- Whether a queue with its clock is that of a run. -/
structure Shows (run : QueueRun) (timed : Timed) : Prop where
  queue : timed.queue = run.queue
  agenda : timed.agenda = run.agenda
  allAdded : timed.expiries = []

/-- Whether a run goes on in a way that its timers allow. -/
def GoesOn (run new : QueueRun) : Prop :=
  ∀ timed : Timed, timed.Sound → run.Shows timed → ∃ later, timed.Reaches later ∧ new.Shows later

theorem GoesOn.refl (run : QueueRun) : run.GoesOn run :=
  fun timed _ shows => ⟨timed, .refl, shows⟩

theorem GoesOn.trans (first : run.GoesOn other) (second : other.GoesOn new) : run.GoesOn new := by
  intro timed sound shows
  rcases first timed sound shows with ⟨between, reaches, showsThen⟩
  have soundThen := Timed.Reaches.sound reaches sound
  rcases second between soundThen showsThen with ⟨later, onwards, showsNow⟩
  exact ⟨later, reaches.trans onwards, showsNow⟩

/-- What workers have received is no part of the queue. -/
theorem GoesOn.of_same (goesOn : run.GoesOn other) (queue : new.queue = other.queue)
    (agenda : new.agenda = other.agenda) : run.GoesOn new := by
  intro timed sound shows
  rcases goesOn timed sound shows with ⟨later, reaches, showsThen⟩
  exact ⟨later, reaches, showsThen.queue.trans queue.symm, showsThen.agenda.trans agenda.symm,
    showsThen.allAdded⟩

theorem goesOn_use (run : QueueRun) (operation : Operation) (plain : operation.isPlain) :
    run.GoesOn { run with queue := (operation.run run.queue).2 } := by
  intro timed sound shows
  refine ⟨timed.use operation, .single (.use operation plain), ?_, shows.agenda, shows.allAdded⟩
  rw [← shows.queue]
  rfl

theorem goesOn_receive (run : QueueRun) (worker : Nat) (handout : Option Handout) :
    run.GoesOn (run.receive worker handout) := by
  refine (GoesOn.refl run).of_same ?_ ?_ <;> unfold receive <;> split <;> rfl

theorem goesOn_wake (run : QueueRun) (worker : Nat) : run.GoesOn (run.wake worker) :=
  (goesOn_use run (.retake worker) rfl).trans (goesOn_receive _ worker _)

theorem goesOn_settleWithin (times : Nat) (run : QueueRun) :
    run.GoesOn (settleWithin times run) := by
  induction times generalizing run with
  | zero => exact .refl run
  | succ times ih =>
      unfold settleWithin
      split
      · exact .refl run
      · exact (goesOn_wake run _).trans (ih _)

theorem GoesOn.settle (goesOn : run.GoesOn new) : run.GoesOn new.settle :=
  goesOn.trans (goesOn_settleWithin _ new)

theorem goesOn_act (run : QueueRun) (operation : Operation) (plain : operation.isPlain) :
    run.GoesOn (run.act fun queue => (operation.run queue).2) :=
  (goesOn_use run operation plain).settle

theorem goesOn_giveUp (run : QueueRun) : run.GoesOn run.giveUp := by
  refine GoesOn.settle ?_
  intro timed sound shows
  refine ⟨_, .single (.stir timed.queue.backoff (timed.queue.signal.disarm user)), ?_,
    shows.agenda, shows.allAdded⟩
  rw [shows.queue]
  rfl

theorem goesOn_startWorker (run : QueueRun) (name : String) :
    run.GoesOn (run.startWorker name) := by
  have joined : run.GoesOn { run with workers := run.workers ++ [name] } :=
    (GoesOn.refl run).of_same rfl rfl
  have taken := goesOn_use { run with workers := run.workers ++ [name] }
    (.take (run.workers ++ [name]).length) rfl
  exact ((joined.trans taken).trans (goesOn_receive _ _ _)).settle

theorem goesOn_poll (run : QueueRun) : run.GoesOn run.poll.2 := by
  have taken := goesOn_use run (.take user) rfl
  unfold poll
  dsimp only
  split
  · exact taken.settle
  · exact taken.trans (goesOn_giveUp _)

section

variable {due? : Option Nat} {queue : WorkQueue} {key : String}

theorem actLater_eq {action : WorkQueue → Nat → Option Nat × WorkQueue}
    (called : action run.queue run.agenda.now = (due?, queue)) :
    run.actLater key action =
      settle
        { run with queue, agenda := due?.elim run.agenda (run.agenda.schedule · key) } := by
  unfold actLater
  rw [called]
  cases due? <;> rfl

theorem goesOn_ask {delay : Nat}
    (called : run.queue.addAfter run.agenda.now key delay = (due?, queue)) :
    run.GoesOn
      { run with queue, agenda := due?.elim run.agenda (run.agenda.schedule · key) } := by
  intro timed sound shows
  refine ⟨timed.ask key delay, .single (.ask key delay), ?_, ?_, shows.allAdded⟩
  · simp only [Timed.ask, shows.queue, shows.agenda, called]
  · simp only [Timed.ask, shows.queue, shows.agenda, called]

end

theorem goesOn_actAfter (run : QueueRun) (key : String) (delay : Nat) :
    run.GoesOn (run.actLater key fun queue now => queue.addAfter now key delay) := by
  cases called : run.queue.addAfter run.agenda.now key delay with
  | mk due? queue =>
      rw [actLater_eq called]
      exact (goesOn_ask called).settle

theorem goesOn_count (run : QueueRun) (backoff : KeyedBackoff) :
    run.GoesOn { run with queue := { run.queue with backoff } } := by
  intro timed sound shows
  refine ⟨_, .single (.stir backoff timed.queue.signal), ?_, shows.agenda, shows.allAdded⟩
  rw [shows.queue]

/-- A retry counts a failure and asks for a delayed add. -/
theorem goesOn_actLater (run : QueueRun) (key : String) :
    run.GoesOn (run.actLater key fun queue now => queue.addLater now key) := by
  have same := run.queue.addLater_eq run.agenda.now key
  generalize run.queue.backoff.fail key = failed at same
  have counted := goesOn_count run failed.2
  cases called : { run.queue with backoff := failed.2 }.addAfter run.agenda.now key failed.1 with
  | mk due? queue =>
      rw [actLater_eq (same.trans called)]
      exact (counted.trans (goesOn_ask called)).settle

/-- A timer that fires adds its key at once. -/
theorem exists_reaches_fire {timer : Nat × String} (armed : timer ∈ timed.agenda.timers)
    (reached : Duration.roundUp timer.1 ≤ timed.agenda.now) (allAdded : timed.expiries = []) :
    ∃ later, timed.Reaches later ∧ later.queue = timed.queue.fire timer.2 timer.1 ∧
      later.agenda = { timed.agenda with timers := timed.agenda.timers.erase timer } ∧
        later.expiries = [] := by
  have fires : timed.Step (timed.fire timer) := .fire timer armed reached
  unfold WorkQueue.fire
  by_cases found : Table.find? timed.queue.delayed timer.2 = some timer.1
  · have fired : timed.fire timer =
        { timed with
          queue := { timed.queue with delayed := Table.erase timed.queue.delayed timer.2 }
          agenda := { timed.agenda with timers := timed.agenda.timers.erase timer }
          expiries := [timer]
          history := timed.note (.expired timer.2 timer.1) } := by
      simp [Timed.fire, found, allAdded]
    rw [fired] at fires
    refine ⟨_, .tail (.single fires) (.settle timer List.mem_cons_self), ?_, rfl, ?_⟩
    · rw [if_pos found]
      rfl
    · simp [Timed.settle]
  · have superseded : timed.fire timer =
        { timed with
          agenda := { timed.agenda with timers := timed.agenda.timers.erase timer } } := by
      simp [Timed.fire, found]
    rw [superseded] at fires
    exact ⟨_, .single fires, (if_neg found).symm, rfl, allAdded⟩

/-- The timers that have been reached fire in the order in which they were set. -/
theorem exists_reaches_fireAll {instant : Nat} (now : timed.agenda.now = instant)
    (early late : List (Nat × String)) (timers : timed.agenda.timers = early ++ late)
    (allAdded : timed.expiries = [])
    (notReached : ∀ timer ∈ early, instant < Duration.roundUp timer.1) :
    ∃ later, timed.Reaches later ∧
      later.queue = (late.filter fun timer => Duration.roundUp timer.1 ≤ instant).foldl
        (fun queue timer => queue.fire timer.2 timer.1) timed.queue ∧
      later.agenda =
        ⟨instant, early ++ late.filter fun timer => !(Duration.roundUp timer.1 ≤ instant)⟩ ∧
      later.expiries = [] := by
  induction late generalizing timed early with
  | nil => exact ⟨timed, .refl, rfl, by rw [List.filter_nil, ← now, ← timers], allAdded⟩
  | cons timer late ih =>
      by_cases reached : Duration.roundUp timer.1 ≤ instant
      · have armed : timer ∈ timed.agenda.timers := by simp [timers]
        have notEarly : timer ∉ early := fun within =>
          Nat.not_le_of_lt (notReached timer within) reached
        rcases exists_reaches_fire armed (now ▸ reached) allAdded with
          ⟨between, fires, queue, agenda, settled⟩
        have nowThen : between.agenda.now = instant := by rw [agenda, ← now]
        have left : between.agenda.timers = early ++ late := by
          rw [agenda]
          simp [timers, List.erase_append_right _ notEarly]
        rcases ih nowThen early left settled notReached with
          ⟨later, onwards, queueThen, agendaThen, settledThen⟩
        refine ⟨later, fires.trans onwards, ?_, ?_, settledThen⟩
        · rw [queueThen, queue, List.filter_cons_of_pos (by simpa using reached), List.foldl_cons]
        · rw [agendaThen, List.filter_cons_of_neg (by simpa using reached)]
      · have isEarly : ∀ other ∈ early ++ [timer], instant < Duration.roundUp other.1 := by
          intro other within
          rcases List.mem_append.mp within with before | last
          · exact notReached other before
          · rw [List.mem_singleton.mp last]
            exact Nat.lt_of_not_le reached
        rcases ih now (early ++ [timer]) (by simp [timers]) allAdded isEarly with
          ⟨later, onwards, queue, agenda, settled⟩
        refine ⟨later, onwards, ?_, ?_, settled⟩
        · rw [queue, List.filter_cons_of_neg (by simpa using reached)]
        · rw [agenda, List.filter_cons_of_pos (by simpa using reached), List.append_assoc]
          rfl

theorem queue_foldl_fire (fired : List (Nat × String)) (run : QueueRun) :
    fired.foldl (fun run timer => { run with queue := run.queue.fire timer.2 timer.1 }) run =
      { run with
        queue := fired.foldl (fun queue timer => queue.fire timer.2 timer.1) run.queue } := by
  induction fired generalizing run with
  | nil => rfl
  | cons timer fired ih => exact ih _

/-- Whether no timer fires before some time. -/
def Idle (run : QueueRun) (time : Nat) : Prop :=
  ∀ timer ∈ run.agenda.timers, time ≤ Duration.roundUp timer.1

theorem moveTo_eq {α : Type} (agenda : Agenda α) (instant : Nat) :
    agenda.moveTo instant =
      (agenda.timers.filter fun timer => Duration.roundUp timer.1 ≤ instant,
        ⟨instant, agenda.timers.filter fun timer => !(Duration.roundUp timer.1 ≤ instant)⟩) := by
  simp [Agenda.moveTo, List.partition_eq_filter_filter, Function.comp_def]

/-- The clock stops at an instant that no timer precedes, and the timers for it fire. -/
theorem goesOn_stop (run : QueueRun) {instant : Nat} (isLater : run.agenda.now ≤ instant)
    (idle : run.Idle instant) :
    run.GoesOn (fire (run.agenda.moveTo instant).1
      { run with agenda := (run.agenda.moveTo instant).2 }) := by
  refine GoesOn.settle ?_
  intro timed sound shows
  have waits : timed.Step (timed.waitUntil instant) := by
    refine .wait instant ?_ shows.allAdded ?_ <;> rw [shows.agenda]
    · exact isLater
    · exact idle
  have timers : (timed.waitUntil instant).agenda.timers = [] ++ run.agenda.timers := by
    rw [List.nil_append, ← shows.agenda]
    rfl
  rcases exists_reaches_fireAll (Timed.now_waitUntil timed instant) [] run.agenda.timers timers
    shows.allAdded (by simp) with ⟨later, onwards, queue, agenda, settled⟩
  refine ⟨later, .head waits onwards, ?_, ?_, settled⟩
  · simp only [queue_foldl_fire, queue, moveTo_eq, Timed.waitUntil, shows.queue]
  · simp only [queue_foldl_fire, agenda, moveTo_eq, List.nil_append]

theorem goesOn_finish (run : QueueRun) {limit : Nat} (idle : run.Idle limit) :
    run.GoesOn { run with agenda := { run.agenda with now := max limit run.agenda.now } } := by
  intro timed sound shows
  refine ⟨timed.waitUntil (max limit run.agenda.now), .single (.wait _ ?_ shows.allAdded ?_),
    shows.queue, ?_, shows.allAdded⟩
  · rw [shows.agenda]
    exact Nat.le_max_right _ _
  · intro timer armed
    have ahead := sound.ahead timer armed
    rw [shows.agenda] at armed ahead
    exact Nat.max_le.mpr ⟨idle timer armed, ahead⟩
  · rw [← shows.agenda]
    rfl

theorem agenda_receive (run : QueueRun) (worker : Nat) (handout : Option Handout) :
    (run.receive worker handout).agenda = run.agenda := by
  unfold receive
  split <;> rfl

theorem agenda_settleWithin (times : Nat) (run : QueueRun) :
    (settleWithin times run).agenda = run.agenda := by
  induction times generalizing run with
  | zero => rfl
  | succ times ih =>
      unfold settleWithin
      split
      · rfl
      · exact (ih _).trans (agenda_receive _ _ _)

theorem agenda_fire (fired : List (Nat × String)) (run : QueueRun) :
    (fire fired run).agenda = run.agenda := by
  unfold fire settle
  rw [agenda_settleWithin, queue_foldl_fire]

/-- Whether so many stops suffice for the timers that fire up to a limit. -/
def Suffices (run : QueueRun) (limit times : Nat) : Prop :=
  ∀ timer ∈ run.agenda.timers, limit < Duration.roundUp timer.1 + times * Duration.millisecond

theorem add_millisecond_le_roundUp {earlier later : Nat}
    (isEarlier : Duration.roundUp earlier < Duration.roundUp later) :
    Duration.roundUp earlier + Duration.millisecond ≤ Duration.roundUp later := by
  simp only [Duration.roundUp, Duration.millisecond] at isEarlier ⊢
  omega

/-- What is known of the next stop. -/
theorem step?_eq_some {α : Type} {agenda : Agenda α} {limit : Nat}
    {stop : List (Nat × α) × Agenda α} (stops : agenda.step? limit = some stop) :
    ∃ timer ∈ agenda.timers, Duration.roundUp timer.1 ≤ limit ∧
      stop = agenda.moveTo (Duration.roundUp timer.1) ∧
        ∀ other ∈ agenda.timers, Duration.roundUp timer.1 ≤ Duration.roundUp other.1 := by
  unfold Agenda.step? Agenda.next? at stops
  split at stops
  next instant next =>
      rw [List.min?_eq_some_iff] at next
      split at stops
      next within =>
          rcases List.mem_map.mp next.1 with ⟨timer, armed, rfl⟩
          refine ⟨timer, armed, within, (Option.some.inj stops).symm, ?_⟩
          intro other otherArmed
          exact next.2 _ (List.mem_map.mpr ⟨other, otherArmed, rfl⟩)
      next => contradiction
  next => contradiction

theorem idle_of_step?_eq_none {limit : Nat} (noStop : run.agenda.step? limit = none) :
    run.Idle limit := by
  intro timer armed
  have isTimer : Duration.roundUp timer.1 ∈
      run.agenda.timers.map fun timer => Duration.roundUp timer.1 :=
    List.mem_map.mpr ⟨timer, armed, rfl⟩
  unfold Agenda.step? Agenda.next? at noStop
  split at noStop
  next instant next =>
      rw [List.min?_eq_some_iff] at next
      have isLeast := next.2 _ isTimer
      split at noStop
      · contradiction
      · omega
  next none =>
      rw [List.min?_eq_none_iff] at none
      rw [none] at isTimer
      contradiction

theorem goesOn_go {limit : Nat} (times : Nat) (run : QueueRun) (enough : run.Suffices limit times)
    (ahead : run.Idle run.agenda.now) :
    run.GoesOn (Agenda.pass.go QueueRun.agenda (fun agenda run => { run with agenda }) fire
      limit times run) := by
  induction times generalizing run with
  | zero =>
      refine goesOn_finish run ?_
      intro timer armed
      have past := enough timer armed
      omega
  | succ times ih =>
      unfold Agenda.pass.go
      split
      next noStop => exact goesOn_finish run (idle_of_step?_eq_none noStop)
      next fired rest stops =>
          rcases step?_eq_some stops with ⟨timer, armed, within, same, isFirst⟩
          have stopped := goesOn_stop run (ahead timer armed) isFirst
          rw [← same] at stopped
          have agenda := agenda_fire fired { run with agenda := rest }
          have isRest : rest = (run.agenda.moveTo (Duration.roundUp timer.1)).2 :=
            congrArg Prod.snd same
          rw [moveTo_eq] at isRest
          have later (other : Nat × String) (left : other ∈ rest.timers) :
              Duration.roundUp timer.1 < Duration.roundUp other.1 := by
            rw [isRest, List.mem_filter] at left
            simpa using left.2
          refine stopped.trans (ih _ ?_ ?_)
          · intro other left
            rw [agenda] at left
            have gap := add_millisecond_le_roundUp (later other left)
            have before := enough timer armed
            rw [Nat.succ_mul] at before
            omega
          · intro other left
            rw [agenda] at left ⊢
            rw [isRest] at left ⊢
            exact Nat.le_of_lt (later other (isRest ▸ left))

/-- Time passes as timers allow. -/
theorem goesOn_passTo (run : QueueRun) (time : Nat) : run.GoesOn (run.passTo time) := by
  intro timed sound shows
  have ahead : run.Idle run.agenda.now := by
    intro timer armed
    rw [← shows.agenda] at armed ⊢
    exact sound.ahead timer armed
  refine goesOn_go _ run ?_ ahead timed sound shows
  intro timer armed
  have notPast := ahead timer armed
  simp only [Duration.wholeMillis, Duration.millisecond]
  omega

theorem goesOn_elapse (run : QueueRun) (duration : Nat) : run.GoesOn (run.elapse duration) :=
  goesOn_passTo run _

theorem goesOn_awaitWithin (limit times : Nat) (run : QueueRun) :
    run.GoesOn (awaitWithin limit times run).2 := by
  induction times generalizing run with
  | zero => exact .refl run
  | succ times ih =>
      unfold awaitWithin
      split
      · exact .refl run
      next time next =>
          have passed := goesOn_passTo run time
          have asked := passed.trans (goesOn_use (run.passTo time) (.retake user) rfl)
          split
          · exact .refl run
          · dsimp only
            split
            · split
              · exact asked.settle
              · exact asked.settle.trans (ih _)
            · exact passed.trans (ih _)

theorem goesOn_await (run : QueueRun) (duration : Nat) : run.GoesOn (run.await duration).2 := by
  have asked : run.GoesOn { run with queue := (run.queue.take user).2 } :=
    goesOn_use run (.take user) rfl
  unfold await
  dsimp only
  split
  · exact asked.settle
  · have waited := asked.settle.trans
      (goesOn_awaitWithin (run.agenda.now + duration) (Duration.wholeMillis duration + 1) _)
    generalize awaitWithin _ _ _ = awaited at waited ⊢
    rcases awaited with ⟨handout?, left⟩
    cases handout? with
    | some handout => exact waited
    | none => exact (waited.trans (goesOn_giveUp left)).trans (goesOn_passTo _ _)

theorem goesOn_queueAction {step : Json} {answer : Option Json}
    (acts : Scenario.queueAction run step = some (answer, new)) : run.GoesOn new := by
  unfold Scenario.queueAction at acts
  dsimp only at acts
  split at acts
  all_goals try (rcases Prod.mk.inj (Option.some.inj acts) with ⟨-, rfl⟩)
  · exact goesOn_act run (.add _) rfl
  · exact goesOn_actAfter run _ _
  · exact goesOn_actLater run _
  · exact goesOn_act run (.forget _) rfl
  · exact goesOn_act run (.finish 0 _) rfl
  · exact .refl run
  · exact goesOn_poll run
  · exact goesOn_await run _
  · exact goesOn_elapse run _
  · exact goesOn_act run .close rfl
  · exact goesOn_startWorker run _
  · contradiction

theorem goesOn_queueStep {step answer : Json}
    (acts : Scenario.queueStep run step = some (answer, new)) : run.GoesOn new := by
  unfold Scenario.queueStep at acts
  cases acted : Scenario.queueAction run step with
  | none => simp [acted] at acts
  | some result =>
      rcases result with ⟨answer?, between⟩
      have goesOn := goesOn_queueAction acted
      simp only [acted, Option.bind_eq_bind, Option.bind_some, Option.pure_def, Option.some.injEq,
        Prod.mk.injEq] at acts
      rw [← acts.2]
      exact goesOn.of_same rfl rfl

theorem goesOn_performSteps {steps answers : List Json}
    (performed : Scenario.performSteps Scenario.queueStep run steps = some (answers, new)) :
    run.GoesOn new := by
  induction steps generalizing run new answers with
  | nil =>
      unfold Scenario.performSteps at performed
      rcases Prod.mk.inj (Option.some.inj performed) with ⟨-, rfl⟩
      exact .refl run
  | cons step steps ih =>
      unfold Scenario.performSteps at performed
      cases acted : Scenario.queueStep run step with
      | none => simp [acted] at performed
      | some result =>
          rcases result with ⟨answer, between⟩
          cases rest : Scenario.performSteps Scenario.queueStep between steps with
          | none => simp [acted, rest] at performed
          | some result =>
              rcases result with ⟨others, last⟩
              simp only [acted, rest, Option.bind_eq_bind, Option.bind_some, Option.pure_def,
                Option.some.injEq, Prod.mk.injEq] at performed
              rw [← performed.2]
              exact (goesOn_queueStep acted).trans (ih rest)

/-- Whatever a scenario does with a queue, its queue and clock are those of a course that the
timers allow. -/
theorem exists_reaches_of_performSteps {policy : RetryPolicy} {steps answers : List Json}
    (performed : Scenario.performSteps Scenario.queueStep (initial policy) steps =
      some (answers, new)) :
    ∃ timed, (Timed.initial policy).Reaches timed ∧ new.Shows timed :=
  goesOn_performSteps performed _ (Timed.sound_initial policy) ⟨rfl, rfl, rfl⟩

end VolumeAttacher.Simulation.QueueRun
