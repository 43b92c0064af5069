import VolumeAttacher.Number.Numeral

/-!
# Decimals read in steps

A decimal is read into double precision by arithmetic in double precision: its digits, as many as
fit 64 bits, are one whole number, and this number is multiplied or divided by a power of ten. Each
step rounds to the nearest number. The result is the number nearest to the decimal where the first
steps are exact, as they are up to 15 digits and 22 places, and may be a neighbour of it elsewhere.
-/

namespace VolumeAttacher

namespace Numeral

/-- Appends digits to a number while it fits 64 bits, and returns the digits left over. -/
def appendDigits (value : Nat) : List Char → Nat × List Char
  | [] => (value, [])
  | c :: rest =>
      let next := 10 * value + (c.toNat - '0'.toNat)
      if next < 0x10000000000000000 then appendDigits next rest else (value, c :: rest)

/-- The decimal of whole digits, fraction digits and an exponent, with digits that fit 64 bits. The
digits left over count as zeros. -/
def shortDecimal (whole fraction : List Char) (exponent : Int) : Decimal :=
  let (value, wholeRest) := appendDigits 0 whole
  let (value, fractionRest) := appendDigits value fraction
  ⟨value, exponent + wholeRest.length + fractionRest.length - fraction.length⟩

end Numeral

namespace BinaryFormat

/-- The product of two numbers; `none` if it is too large. -/
def times? (format : BinaryFormat) (left right : Dyadic) : Option Dyadic :=
  format.round? (left.quotient.1 * right.quotient.1) (left.quotient.2 * right.quotient.2)

/-- The quotient of two numbers; `none` if it is too large. -/
def over? (format : BinaryFormat) (left right : Dyadic) : Option Dyadic :=
  format.round? (left.quotient.1 * right.quotient.2) (left.quotient.2 * right.quotient.1)

/-- The number nearest to a power of ten; `none` if it is too large. -/
def powerOfTen? (format : BinaryFormat) (n : Nat) : Option Dyadic :=
  format.ofDecimal? ⟨1, n⟩

end BinaryFormat

namespace Decimal

/-- The largest exponent of a power of ten in double precision. -/
def greatestPower : Nat := 308

/-- The number in double precision that steps of double precision make of a decimal with digits that
fit 64 bits; `none` if it is too large. Below the square of the smallest power everything is zero.
-/
def toDouble? (decimal : Decimal) : Option Dyadic := do
  let format := BinaryFormat.double
  let digits ← format.round? decimal.digits 1
  let places := (-decimal.exponent).toNat
  if decimal.digits = 0 ∨ 2 * greatestPower < places then some ⟨0, format.leastExponent⟩
  else if 0 ≤ decimal.exponent then
    format.times? digits (← format.powerOfTen? decimal.exponent.toNat)
  else if places ≤ greatestPower then
    format.over? digits (← format.powerOfTen? places)
  else
    let scaled ← format.over? digits (← format.powerOfTen? greatestPower)
    format.over? scaled (← format.powerOfTen? (places - greatestPower))

end Decimal

end VolumeAttacher
