import VolumeAttacher.Number.Rounding

/-!
# Binary floating point numbers

A finite positive number of a `BinaryFormat` is a `Dyadic` `significand * 2 ^ exponent`. Everything
is exact arithmetic on natural numbers: rounding a quotient into a format, and the shortest decimal
that rounds back to a given number.

Two formats are in use: `BinaryFormat.single` for the request rate and `BinaryFormat.double` for
numbers of JSON and for quotients of rates.
-/

namespace VolumeAttacher

/-- The limits of a binary floating point format. -/
structure BinaryFormat where
  precision : Nat
  leastExponent : Int
  greatestExponent : Int
deriving DecidableEq, Repr

/-- The positive number `significand * 2 ^ exponent`. -/
structure Dyadic where
  significand : Nat
  exponent : Int
deriving DecidableEq, Repr

/-- The number `digits * 10 ^ exponent`. -/
structure Decimal where
  digits : Nat
  exponent : Int
deriving DecidableEq, Repr

/-- The quotient of whole numbers equal to `whole * base ^ exponent`. -/
def scaledQuotient (whole base : Nat) (exponent : Int) : Nat × Nat :=
  if 0 ≤ exponent then (whole * Nat.pow base exponent.toNat, 1)
  else (whole, Nat.pow base (-exponent).toNat)

namespace Dyadic

def quotient (number : Dyadic) : Nat × Nat :=
  scaledQuotient number.significand 2 number.exponent

end Dyadic

namespace Decimal

def quotient (number : Decimal) : Nat × Nat :=
  scaledQuotient number.digits 10 number.exponent

def width (number : Decimal) : Nat :=
  (Nat.toDigits 10 number.digits).length

/-- The number in positional notation, without exponent. -/
def positional (number : Decimal) : String :=
  let digits := Nat.toDigits 10 number.digits
  if 0 ≤ number.exponent then
    String.ofList (digits ++ List.replicate number.exponent.toNat '0')
  else
    let places := (-number.exponent).toNat
    let padded := List.replicate (places + 1 - digits.length) '0' ++ digits
    let split := padded.length - places
    String.ofList (padded.take split ++ '.' :: padded.drop split)

end Decimal

namespace BinaryFormat

def single : BinaryFormat := ⟨24, -149, 104⟩

def double : BinaryFormat := ⟨53, -1074, 971⟩

/-- The exponent of the largest power of two that is at most `num / den`. -/
def floorLog2 (num den : Nat) : Int :=
  let guess : Int := (Nat.log2 num : Int) - (Nat.log2 den : Int)
  let fits :=
    if 0 ≤ guess then den * Nat.pow 2 guess.toNat ≤ num
    else den ≤ num * Nat.pow 2 (-guess).toNat
  if fits then guess else guess - 1

/-- The number of the format nearest to `num / den`, ties to even; `none` if it is too large. -/
def round? (format : BinaryFormat) (num den : Nat) : Option Dyadic :=
  let exponent := max format.leastExponent (floorLog2 num den + 1 - format.precision)
  let significand :=
    if 0 ≤ exponent then roundQuotient num (den * Nat.pow 2 exponent.toNat)
    else roundQuotient (num * Nat.pow 2 (-exponent).toNat) den
  let number : Dyadic :=
    if significand = Nat.pow 2 format.precision then
      ⟨Nat.pow 2 (format.precision - 1), exponent + 1⟩
    else ⟨significand, exponent⟩
  if format.greatestExponent < number.exponent then none else some number

/-- The decimal order of magnitude beyond which every decimal is too large, and below the negative
of which every decimal rounds to zero, in both formats of this library. -/
def decimalReach : Int := 400

/-- The number of the format nearest to a decimal; `none` if it is too large. -/
def ofDecimal? (format : BinaryFormat) (decimal : Decimal) : Option Dyadic :=
  let magnitude := decimal.exponent + decimal.width
  if decimal.digits = 0 ∨ magnitude < -decimalReach then some ⟨0, format.leastExponent⟩
  else if decimalReach < magnitude then none
  else format.round? decimal.quotient.1 decimal.quotient.2

/-- The exponent `k` with `10 ^ k ≤ num / den < 10 ^ (k + 1)`, searched upwards from a start below.
-/
def floorLog10From (num den : Nat) (start : Int) : Nat → Int
  | 0 => start
  | fuel + 1 =>
      let next := scaledQuotient 1 10 (start + 1)
      if next.1 * den ≤ num * next.2 then floorLog10From num den (start + 1) fuel else start

/-- The exponent of the largest power of ten that is at most `num / den`. The search starts just
below the estimate `0.30103 * log2 (num / den)`, which is off by less than one in both formats. -/
def floorLog10 (num den : Nat) : Int :=
  floorLog10From num den (Int.fdiv (floorLog2 num den * 30103) 100000 - 1) 4

/-- The decimals next to the number on the grid of `10 ^ grid`, nearest first. -/
def decimalNeighbours (number : Dyadic) (grid : Int) : List Decimal :=
  let (num, den) := number.quotient
  let (gridNum, gridDen) := scaledQuotient 1 10 grid
  let scaledNum := num * gridDen
  let scaledDen := den * gridNum
  let below := scaledNum / scaledDen
  if 2 * (scaledNum % scaledDen) ≤ scaledDen then [⟨below, grid⟩, ⟨below + 1, grid⟩]
  else [⟨below + 1, grid⟩, ⟨below, grid⟩]

/-- Drops the zeros at the end of the digits. -/
def trimZeros (decimal : Decimal) : Nat → Decimal
  | 0 => decimal
  | fuel + 1 =>
      if decimal.digits ≠ 0 ∧ decimal.digits % 10 = 0 then
        trimZeros ⟨decimal.digits / 10, decimal.exponent + 1⟩ fuel
      else decimal

/-- The decimal of fewest digits that rounds back to the number; of several the nearest. -/
def shortest (format : BinaryFormat) (number : Dyadic) : Decimal :=
  let (num, den) := number.quotient
  let leading := floorLog10 num den
  let readsBack (decimal : Decimal) := format.ofDecimal? decimal = some number
  let found := (List.range 17).findSome? fun (extra : Nat) =>
    (decimalNeighbours number (leading - extra)).find? fun decimal => readsBack decimal
  trimZeros (found.getD ⟨0, 0⟩) 20

end BinaryFormat

end VolumeAttacher
