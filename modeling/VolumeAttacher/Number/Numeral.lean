import VolumeAttacher.Number.Binary

/-!
# Decimal numerals

Reading of digits, of whole numbers within limits and of numerals with a fraction and an exponent.
Digits are the ten ASCII digits.
-/

namespace VolumeAttacher

namespace Numeral

def digit? (c : Char) : Option Nat :=
  if c.isDigit then some (c.toNat - '0'.toNat) else none

def ofDigits (digits : List Char) : Nat :=
  digits.foldl (fun value c => 10 * value + (c.toNat - '0'.toNat)) 0

def splitDigits (text : List Char) : List Char × List Char :=
  (text.takeWhile Char.isDigit, text.dropWhile Char.isDigit)

/-- The number written by a nonempty list of digits and nothing else. -/
def natural? (text : List Char) : Option Nat :=
  if text ≠ [] ∧ text.all Char.isDigit then some (ofDigits text) else none

def integer? : List Char → Option Int
  | '+' :: digits => (natural? digits).map Int.ofNat
  | '-' :: digits => (natural? digits).map fun value => -Int.ofNat value
  | digits => (natural? digits).map Int.ofNat

/-- The whole number written by a text, if it lies within the bounds. -/
def integerWithin? (least greatest : Int) (text : String) : Option Int :=
  (integer? text.toList).filter fun value => least ≤ value ∧ value ≤ greatest

/-- Reads an exponent after the letter `e` or `E`. No exponent counts as zero, and the letter with
no digits after it stays in the rest. -/
def exponent (text : List Char) : Int × List Char :=
  let signed (sign : Int) (rest : List Char) : Int × List Char :=
    match splitDigits rest with
    | ([], _) => (0, text)
    | (digits, rest) => (sign * ofDigits digits, rest)
  match text with
  | 'e' :: '+' :: rest | 'E' :: '+' :: rest => signed 1 rest
  | 'e' :: '-' :: rest | 'E' :: '-' :: rest => signed (-1) rest
  | 'e' :: rest | 'E' :: rest => signed 1 rest
  | _ => (0, text)

/-- The decimal of whole digits, fraction digits and an exponent. -/
def decimal (whole fraction : List Char) (exponent : Int) : Decimal :=
  ⟨ofDigits (whole ++ fraction), exponent - fraction.length⟩

end Numeral

end VolumeAttacher
