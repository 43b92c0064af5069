import VolumeAttacher.Number.Numeral

/-!
# Single precision numbers

Numbers of `BinaryFormat.single` with sign, infinities and the undefined number, as rates are given
on the command line. The text of a number is the shortest decimal that reads back, never with an
exponent.
-/

namespace VolumeAttacher

/-- A single precision number. -/
inductive Single where
  | nan
  | infinite (negative : Bool)
  /-- A finite number by its sign and its magnitude, which may be zero. -/
  | finite (negative : Bool) (magnitude : Dyadic)
deriving DecidableEq, Repr

namespace Single

def ofDecimal (negative : Bool) (decimal : Decimal) : Single :=
  match BinaryFormat.single.ofDecimal? decimal with
  | none => .infinite negative
  | some magnitude => .finite negative magnitude

/-- Reads a number without its sign. -/
def magnitude? (negative : Bool) (text : List Char) : Option Single :=
  let word := String.ofList (text.map Char.toLower)
  if word = "nan" then some .nan
  else if word = "inf" ∨ word = "infinity" then some (.infinite negative)
  else
    let (whole, rest) := Numeral.splitDigits text
    let (fraction, rest) :=
      match rest with
      | '.' :: rest => Numeral.splitDigits rest
      | rest => ([], rest)
    let (exponent, rest) := Numeral.exponent rest
    if (whole = [] ∧ fraction = []) ∨ rest ≠ [] then none
    else some (ofDecimal negative (Numeral.decimal whole fraction exponent))

def ofText? (text : String) : Option Single :=
  match text.toList with
  | '-' :: rest => magnitude? true rest
  | '+' :: rest => magnitude? false rest
  | rest => magnitude? false rest

def text : Single → String
  | .nan => "NaN"
  | .infinite negative => if negative then "-inf" else "inf"
  | .finite negative magnitude =>
      let sign := if negative then "-" else ""
      if magnitude.significand = 0 then sign ++ "0"
      else sign ++ (BinaryFormat.single.shortest magnitude).positional

/-- Whether a number is finite and greater than zero. -/
def isPositive : Single → Bool
  | .finite false magnitude => magnitude.significand ≠ 0
  | _ => false

end Single

end VolumeAttacher
