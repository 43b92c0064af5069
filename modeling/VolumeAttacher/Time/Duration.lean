import VolumeAttacher.Number.Numeral
import VolumeAttacher.Text.Blank

/-!
# Durations

A duration is a natural number of nanoseconds, and so is an instant: the time since the clock
started. The clock has whole milliseconds, so a timer for an instant between two of them fires at
the later one.
-/

namespace VolumeAttacher

namespace Duration

/-- One microsecond. -/
def microsecond : Nat := 1000

/-- One millisecond. -/
def millisecond : Nat := 1000000

/-- One second. -/
def second : Nat := 1000000000

/-- A number of milliseconds. -/
def ofMillis (n : Nat) : Nat := n * millisecond

/-- A number of seconds. -/
def ofSeconds (n : Nat) : Nat := n * second

/-- The number of whole seconds. -/
def wholeSeconds (d : Nat) : Nat := d / second

/-- The number of whole milliseconds. -/
def wholeMillis (d : Nat) : Nat := d / millisecond

/-- The longest duration: seconds in 64 bits and a full fraction. -/
def longest : Nat := 0x10000000000000000 * second - 1

/-- The digits of a fraction of which `digits` places are known, without zeros at the end. -/
def fractionText (places fraction : Nat) : String :=
  let digits := (Text.padded places fraction).toList.reverse.dropWhile (· = '0')
  if digits.isEmpty then "" else String.ofList ('.' :: digits.reverse)

/-- A duration in messages: in seconds, and below one second in the largest unit that is not longer,
with the fraction that is needed. -/
def text (d : Nat) : String :=
  if second ≤ d then s!"{d / second}" ++ fractionText 9 (d % second) ++ "s"
  else if millisecond ≤ d then s!"{d / millisecond}" ++ fractionText 6 (d % millisecond) ++ "ms"
  else if microsecond ≤ d then s!"{d / microsecond}" ++ fractionText 3 (d % microsecond) ++ "µs"
  else s!"{d}ns"

/-- A duration as seconds with nine places. -/
def secondsText (d : Nat) : String :=
  s!"{d / second}." ++ Text.padded 9 (d % second)

/-- The duration of a number of seconds with at most nine places. -/
def ofSecondsText? (text : String) : Option Nat :=
  match text.toList.span (· ≠ '.') with
  | (whole, []) => (Numeral.natural? whole).map ofSeconds
  | (whole, _ :: fraction) => do
    let seconds ← Numeral.natural? whole
    if 9 < fraction.length then none
    else
      let nanoseconds ← Numeral.natural? (fraction ++ List.replicate (9 - fraction.length) '0')
      return ofSeconds seconds + nanoseconds

/-- The first instant of the millisecond clock that is not before the given one. -/
def roundUp (instant : Nat) : Nat :=
  (instant + millisecond - 1) / millisecond * millisecond

theorem le_roundUp (instant : Nat) : instant ≤ roundUp instant := by
  simp only [roundUp, millisecond]; omega

theorem roundUp_mono {earlier later : Nat} (isLater : earlier ≤ later) :
    roundUp earlier ≤ roundUp later := by
  simp only [roundUp, millisecond]; omega

end Duration

end VolumeAttacher
