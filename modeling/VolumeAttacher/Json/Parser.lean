import VolumeAttacher.Json.Basic
import VolumeAttacher.Number.Stepwise

/-!
# Reading JSON texts

`Json.parse?` reads one strict JSON value with blanks around it. Of two members of one name the
later one counts, an unpaired surrogate escape is refused, and a number outside the range of 64-bit
whole numbers is read as a floating point number. Arrays and objects may be nested 127 deep.
-/

namespace VolumeAttacher.Json

namespace Reader

def isBlank (c : Char) : Bool :=
  c = ' ' || c = '\t' || c = '\n' || c = '\r'

def skipBlanks (input : List Char) : List Char :=
  input.dropWhile isBlank

def hexDigit? (c : Char) : Option Nat :=
  if c.isDigit then some (c.toNat - '0'.toNat)
  else if 'a' ≤ c ∧ c ≤ 'f' then some (c.toNat - 'a'.toNat + 10)
  else if 'A' ≤ c ∧ c ≤ 'F' then some (c.toNat - 'A'.toNat + 10)
  else none

def hexUnit? : List Char → Option (Nat × List Char)
  | a :: b :: c :: d :: rest => do
    let a ← hexDigit? a
    let b ← hexDigit? b
    let c ← hexDigit? c
    let d ← hexDigit? d
    return (((a * 16 + b) * 16 + c) * 16 + d, rest)
  | _ => none

/-- Reads what follows the escape `\u`: one unit, or a pair of surrogates. -/
def unicodeEscape? (input : List Char) : Option (Char × List Char) := do
  let (unit, rest) ← hexUnit? input
  if 0xD800 ≤ unit ∧ unit < 0xDC00 then
    match rest with
    | '\\' :: 'u' :: rest =>
        let (low, rest) ← hexUnit? rest
        if 0xDC00 ≤ low ∧ low < 0xE000 then
          some (Char.ofNat (0x10000 + (unit - 0xD800) * 0x400 + (low - 0xDC00)), rest)
        else none
    | _ => none
  else if 0xDC00 ≤ unit ∧ unit < 0xE000 then none
  else some (Char.ofNat unit, rest)

def shortEscape? : Char → Option Char
  | '"' => some '"'
  | '\\' => some '\\'
  | '/' => some '/'
  | 'b' => some '\x08'
  | 'f' => some '\x0c'
  | 'n' => some '\n'
  | 'r' => some '\r'
  | 't' => some '\t'
  | _ => none

/-- Reads the rest of a string up to its closing quote. The characters read so far come last first.
The fuel bounds the number of characters and escapes; the length of the text always suffices. -/
def stringRest? : Nat → List Char → List Char → Option (String × List Char)
  | 0, _, _ => none
  | _ + 1, read, '"' :: rest => some (String.ofList read.reverse, rest)
  | fuel + 1, read, '\\' :: 'u' :: rest => do
    let (c, rest) ← unicodeEscape? rest
    stringRest? fuel (c :: read) rest
  | fuel + 1, read, '\\' :: c :: rest => do
    let c ← shortEscape? c
    stringRest? fuel (c :: read) rest
  | fuel + 1, read, c :: rest =>
      if c.toNat < 0x20 ∨ c = '\\' then none else stringRest? fuel (c :: read) rest
  | _ + 1, _, [] => none

def string? : List Char → Option (String × List Char)
  | '"' :: rest => stringRest? (rest.length + 1) [] rest
  | _ => none

def realOfDecimal? (negative : Bool) (decimal : Decimal) : Option JsonNumber :=
  decimal.toDouble?.map fun number =>
    if number.significand = 0 then .real 0 0
    else
      let twos := trailingZeros number.significand 64
      let odd : Int := number.significand / Nat.pow 2 twos
      .real (if negative then -odd else odd) (number.exponent + twos)
where
  trailingZeros (n : Nat) : Nat → Nat
    | 0 => 0
    | fuel + 1 => if n % 2 = 0 then trailingZeros (n / 2) fuel + 1 else 0

/-- Whether a list of digits has no superfluous leading zero and is not empty. -/
def isWholePart : List Char → Bool
  | [] => false
  | ['0'] => true
  | c :: _ => c ≠ '0'

/-- Reads the digits, fraction and exponent of a number whose sign has been read. -/
def magnitude? (negative : Bool) (input : List Char) : Option (JsonNumber × List Char) :=
  let (whole, rest) := Numeral.splitDigits input
  if isWholePart whole then
    let fraction? : Option (List Char × List Char) :=
      match rest with
      | '.' :: rest =>
          match Numeral.splitDigits rest with
          | ([], _) => none
          | split => some split
      | rest => some ([], rest)
    fraction?.bind fun (fraction, afterFraction) =>
      let (exponent, afterExponent) := Numeral.exponent afterFraction
      let startsExponent := afterExponent.head? = some 'e' ∨ afterExponent.head? = some 'E'
      if startsExponent then none
      else
        let value := Numeral.ofDigits whole
        let written := fraction.isEmpty && afterExponent.length == rest.length
        if written && negative && 0 < value && value ≤ 0x8000000000000000 then
          some (.whole (-value), afterExponent)
        else if written && !negative && value < 0x10000000000000000 then
          some (.whole value, afterExponent)
        else
          (realOfDecimal? negative (Numeral.shortDecimal whole fraction exponent)).map
            (·, afterExponent)
  else none

def number? : List Char → Option (JsonNumber × List Char)
  | '-' :: rest => magnitude? true rest
  | input => magnitude? false input

mutual

/-- Reads a value; blanks in front of it have been skipped. The fuel bounds the number of values and
separators, and twice the length of the text always suffices. -/
def value? : Nat → List Char → Option (Json × List Char)
  | 0, _ => none
  | fuel + 1, input =>
      match input with
      | 'n' :: 'u' :: 'l' :: 'l' :: rest => some (.null, rest)
      | 't' :: 'r' :: 'u' :: 'e' :: rest => some (.bool true, rest)
      | 'f' :: 'a' :: 'l' :: 's' :: 'e' :: rest => some (.bool false, rest)
      | '"' :: _ => (string? input).map fun (value, rest) => (.text value, rest)
      | '[' :: rest =>
          match skipBlanks rest with
          | ']' :: rest => some (.array [], rest)
          | rest => (items? fuel rest).map fun (items, rest) => (.array items, rest)
      | '\x7b' :: rest =>
          match skipBlanks rest with
          | '\x7d' :: rest => some (.object [], rest)
          | rest => (members? fuel rest).map fun (members, rest) => (.ofMembers members, rest)
      | _ => (number? input).map fun (value, rest) => (.number value, rest)

/-- Reads the items of a nonempty array and its closing bracket. -/
def items? : Nat → List Char → Option (List Json × List Char)
  | 0, _ => none
  | fuel + 1, input => do
    let (item, rest) ← value? fuel input
    match skipBlanks rest with
    | ']' :: rest => some ([item], rest)
    | ',' :: rest =>
        let (items, rest) ← items? fuel (skipBlanks rest)
        some (item :: items, rest)
    | _ => none

/-- Reads the members of a nonempty object and its closing brace. -/
def members? : Nat → List Char → Option (List (String × Json) × List Char)
  | 0, _ => none
  | fuel + 1, input => do
    let (name, rest) ← string? input
    match skipBlanks rest with
    | ':' :: rest =>
        let (value, rest) ← value? fuel (skipBlanks rest)
        match skipBlanks rest with
        | '\x7d' :: rest => some ([(name, value)], rest)
        | ',' :: rest =>
            let (members, rest) ← members? fuel (skipBlanks rest)
            some ((name, value) :: members, rest)
        | _ => none
    | _ => none

end

end Reader

mutual

def depth : Json → Nat
  | .array items => depthOfItems items + 1
  | .object members => depthOfMembers members + 1
  | _ => 0

/-- The greatest depth of the items. -/
def depthOfItems : List Json → Nat
  | [] => 0
  | item :: items => max (depth item) (depthOfItems items)

/-- The greatest depth of the values of members. -/
def depthOfMembers : List (String × Json) → Nat
  | [] => 0
  | (_, value) :: members => max (depth value) (depthOfMembers members)

end

/-- The greatest depth of a value that is read. -/
def greatestDepth : Nat := 127

def parse? (input : String) : Option Json :=
  let input := input.toList
  match Reader.value? (2 * input.length + 1) (Reader.skipBlanks input) with
  | some (value, rest) =>
      if Reader.skipBlanks rest = [] ∧ value.depth ≤ greatestDepth then some value else none
  | none => none

/-- The members of the object written by a text, in the order written and with repetitions. -/
def parseMembers? (input : String) : Option (List (String × Json)) :=
  let input := input.toList
  match Reader.skipBlanks input with
  | '\x7b' :: rest =>
      let members? :=
        match Reader.skipBlanks rest with
        | '\x7d' :: rest => some ([], rest)
        | rest => Reader.members? (2 * input.length + 1) rest
      match members? with
      | some (members, rest) => if Reader.skipBlanks rest = [] then some members else none
      | none => none
  | _ => none

end VolumeAttacher.Json
