import VolumeAttacher.Number.Binary
import VolumeAttacher.Time.Duration

/-!
# Durations in double precision

Delays are computed as numbers of nanoseconds in double precision. Such a number is whole, and up to
53 bits it is exact, which is 104 days; a longer duration becomes the nearest number that double
precision has.
-/

namespace VolumeAttacher

namespace BinaryFormat

/-- The whole part of the number nearest to `num / den`, or zero if that is too large. -/
def nearestWhole (format : BinaryFormat) (num den : Nat) : Nat :=
  ((format.round? num den).map fun number => number.quotient.1 / number.quotient.2).getD 0

end BinaryFormat

namespace Duration

/-- The whole number in double precision that is nearest to a whole number. -/
def nearestDouble (n : Nat) : Nat :=
  BinaryFormat.double.nearestWhole n 1

/-- The nanoseconds of a duration in double precision: those of its whole seconds and those beyond
are added, with rounding at each step. -/
def inDouble (d : Nat) : Nat :=
  nearestDouble (nearestDouble (nearestDouble (wholeSeconds d) * second) + d % second)

/-- The duration of a number of nanoseconds in double precision. Its whole seconds come from a
division in double precision, and the rest from the number itself, cut to 64 bits. -/
def ofDouble (n : Nat) : Nat :=
  ofSeconds (BinaryFormat.double.nearestWhole n second) + min n 0xFFFFFFFFFFFFFFFF % second

end Duration

end VolumeAttacher
