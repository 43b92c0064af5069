import VolumeAttacher.Time.Duration

/-!
# The agenda of a clock

A clock that stands still while there is work to do, and then jumps to the next timer. Timers fire
at whole milliseconds, and those that fire at the same time do so in the order in which they were
set.
-/

namespace VolumeAttacher

/-- A clock with its timers, in the order in which they were set. -/
structure Agenda (α : Type) where
  now : Nat := 0
  timers : List (Nat × α) := []

namespace Agenda

variable {α : Type}

def schedule (agenda : Agenda α) (due : Nat) (purpose : α) : Agenda α :=
  { agenda with timers := agenda.timers ++ [(due, purpose)] }

def next? (agenda : Agenda α) : Option Nat :=
  (agenda.timers.map fun timer => Duration.roundUp timer.1).min?

/-- Moves the clock to a time and takes off the timers that fire up to it. -/
def moveTo (agenda : Agenda α) (time : Nat) : List (Nat × α) × Agenda α :=
  let (fired, timers) := agenda.timers.partition fun timer => Duration.roundUp timer.1 ≤ time
  (fired, { now := time, timers })

/-- Moves the clock to the next time at which timers fire, if that is not after a limit. -/
def step? (agenda : Agenda α) (limit : Nat) : Option (List (Nat × α) × Agenda α) :=
  match agenda.next? with
  | some time => if time ≤ limit then some (agenda.moveTo time) else none
  | none => none

/-- Lets time pass for something that holds an agenda: at each time up to a limit at which timers
fire it reacts to them. Since timers fire at whole milliseconds, the limit bounds their number. -/
def pass {σ : Type} (agenda : σ → Agenda α) (setAgenda : Agenda α → σ → σ)
    (react : List (Nat × α) → σ → σ) (limit : Nat) (state : σ) : σ :=
  go (Duration.wholeMillis (limit - (agenda state).now) + 1) state
where
  go : Nat → σ → σ
    | 0, state => finish state
    | times + 1, state =>
        match (agenda state).step? limit with
        | none => finish state
        | some (fired, rest) => go times (react fired (setAgenda rest state))
  finish (state : σ) : σ :=
    setAgenda { agenda state with now := max limit (agenda state).now } state

end Agenda

end VolumeAttacher
