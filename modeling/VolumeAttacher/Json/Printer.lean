import VolumeAttacher.Json.Basic

/-!
# Writing JSON texts

`Json.compact` writes a value without blanks, members in name order, and with no escapes but those
the format demands.
-/

namespace VolumeAttacher.Json

def hexDigits (n : Nat) : List Char :=
  Nat.toDigits 16 n

def escaped (c : Char) : List Char :=
  match c with
  | '"' => ['\\', '"']
  | '\\' => ['\\', '\\']
  | '\n' => ['\\', 'n']
  | '\r' => ['\\', 'r']
  | '\t' => ['\\', 't']
  | '\x08' => ['\\', 'b']
  | '\x0c' => ['\\', 'f']
  | c =>
      if c.toNat < 0x20 then
        let digits := hexDigits c.toNat
        ['\\', 'u'] ++ List.replicate (4 - digits.length) '0' ++ digits
      else [c]

def quoted (text : String) : String :=
  String.ofList ('"' :: (text.toList.flatMap escaped ++ ['"']))

/-- A number; the shortest digits that read back, with an exponent. -/
def numberText : JsonNumber → String
  | .whole value => toString value
  | .real significand exponent =>
      if significand = 0 then "0.0"
      else
        let sign := if significand < 0 then "-" else ""
        let bits := Nat.log2 significand.natAbs + 1
        let widened := 53 - bits
        let room := (exponent + 1074).toNat
        let shift := min widened room
        let number : Dyadic := ⟨significand.natAbs * Nat.pow 2 shift, exponent - shift⟩
        let decimal := BinaryFormat.double.shortest number
        sign ++ toString decimal.digits ++ "e" ++ toString decimal.exponent

mutual

def compact : Json → String
  | .null => "null"
  | .bool true => "true"
  | .bool false => "false"
  | .number value => numberText value
  | .text value => quoted value
  | .array items => "[" ++ compactItems items ++ "]"
  | .object members => "\x7b" ++ compactMembers members ++ "\x7d"

def compactItems : List Json → String
  | [] => ""
  | [item] => compact item
  | item :: items => compact item ++ "," ++ compactItems items

def compactMembers : List (String × Json) → String
  | [] => ""
  | [(name, value)] => quoted name ++ ":" ++ compact value
  | (name, value) :: members =>
      quoted name ++ ":" ++ compact value ++ "," ++ compactMembers members

end

end VolumeAttacher.Json
