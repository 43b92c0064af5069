/-!
# Signals

A signal wakes tasks that wait for something to happen. Waking one task wakes the one that has
waited longest; if none waits, a permit is kept, and the next task that would wait takes it and goes
on. Waking all wakes those that wait and keeps no permit. A task that was woken alone and goes away
instead of resuming passes its wake-up on.
-/

namespace VolumeAttacher

/-- How a task was woken. -/
inductive WakeUp where
  | alone
  | together
deriving DecidableEq, Repr

/-- A signal, with tasks known by numbers. -/
structure Signal where
  permit : Bool := false
  /-- The tasks that wait, in the order in which they began to. -/
  waiting : List Nat := []
  /-- The tasks that were woken and have not resumed, in the order in which they were woken. -/
  woken : List (Nat × WakeUp) := []
deriving DecidableEq, Repr

namespace Signal

/-- Wakes the task that has waited longest, or keeps a permit. -/
def wakeOne (signal : Signal) : Signal :=
  match signal.waiting with
  | [] => { signal with permit := true }
  | task :: waiting => { signal with waiting, woken := signal.woken ++ [(task, .alone)] }

/-- Wakes all tasks that wait. -/
def wakeAll (signal : Signal) : Signal :=
  { signal with
    waiting := []
    woken := signal.woken ++ signal.waiting.map fun task => (task, .together) }

/-- Makes a task wait, unless there is a permit, which it takes instead. The answer tells whether it
has taken one. -/
def arm (signal : Signal) (task : Nat) : Bool × Signal :=
  if signal.permit then (true, { signal with permit := false })
  else (false, { signal with waiting := signal.waiting ++ [task] })

/-- Notes that a woken task resumes. -/
def resume (signal : Signal) (task : Nat) : Signal :=
  { signal with woken := signal.woken.filter fun entry => entry.1 ≠ task }

/-- Makes a task wait no longer. If it has been woken alone, another one is woken in its place. -/
def disarm (signal : Signal) (task : Nat) : Signal :=
  let left : Signal :=
    { signal with
      waiting := signal.waiting.filter (· ≠ task)
      woken := signal.woken.filter fun entry => entry.1 ≠ task }
  if signal.woken.contains (task, .alone) then left.wakeOne else left

end Signal

end VolumeAttacher
