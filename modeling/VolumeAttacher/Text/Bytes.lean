/-!
# Bytes as text

Hexadecimal, padded base64 and UTF-8. A UTF-8 text may be read strictly, or with every longest
invalid sequence replaced by the replacement character.
-/

namespace VolumeAttacher.Text

def hexByte (byte : UInt8) : List Char :=
  [Nat.digitChar (byte.toNat / 16), Nat.digitChar (byte.toNat % 16)]

def hex (bytes : List UInt8) : String :=
  String.ofList (bytes.flatMap hexByte)

def hexValue? (c : Char) : Option Nat :=
  if c.isDigit then some (c.toNat - '0'.toNat)
  else if 'a' ≤ c ∧ c ≤ 'f' then some (c.toNat - 'a'.toNat + 10)
  else if 'A' ≤ c ∧ c ≤ 'F' then some (c.toNat - 'A'.toNat + 10)
  else none

def unhexChars? : List Char → Option (List UInt8)
  | [] => some []
  | high :: low :: rest => do
    let high ← hexValue? high
    let low ← hexValue? low
    let bytes ← unhexChars? rest
    return UInt8.ofNat (16 * high + low) :: bytes
  | [_] => none

def unhex? (text : String) : Option (List UInt8) :=
  unhexChars? text.toList

def base64Value? (c : Char) : Option Nat :=
  if 'A' ≤ c ∧ c ≤ 'Z' then some (c.toNat - 'A'.toNat)
  else if 'a' ≤ c ∧ c ≤ 'z' then some (c.toNat - 'a'.toNat + 26)
  else if c.isDigit then some (c.toNat - '0'.toNat + 52)
  else if c = '+' then some 62
  else if c = '/' then some 63
  else none

/-- The bytes written in base64 with padding. Bits that belong to no byte have to be zero. -/
def unbase64Chars? : List Char → Option (List UInt8)
  | [] => some []
  | [a, b, '=', '='] => do
    let a ← base64Value? a
    let b ← base64Value? b
    if b % 16 = 0 then return [UInt8.ofNat (a * 4 + b / 16)] else none
  | [a, b, c, '='] => do
    let a ← base64Value? a
    let b ← base64Value? b
    let c ← base64Value? c
    if c % 4 = 0 then
      return [UInt8.ofNat (a * 4 + b / 16), UInt8.ofNat (b % 16 * 16 + c / 4)]
    else none
  | a :: b :: c :: d :: rest => do
    let a ← base64Value? a
    let b ← base64Value? b
    let c ← base64Value? c
    let d ← base64Value? d
    let bytes ← unbase64Chars? rest
    return UInt8.ofNat (a * 4 + b / 16) :: UInt8.ofNat (b % 16 * 16 + c / 4)
      :: UInt8.ofNat (c % 4 * 64 + d) :: bytes
  | _ => none

def unbase64? (text : String) : Option (List UInt8) :=
  unbase64Chars? text.toList

def base64Digit (value : Nat) : Char :=
  if value < 26 then Char.ofNat ('A'.toNat + value)
  else if value < 52 then Char.ofNat ('a'.toNat + (value - 26))
  else if value < 62 then Char.ofNat ('0'.toNat + (value - 52))
  else if value = 62 then '+'
  else '/'

def base64Chars : List UInt8 → List Char
  | [] => []
  | [a] =>
      [base64Digit (a.toNat / 4), base64Digit (a.toNat % 4 * 16), '=', '=']
  | [a, b] =>
      [base64Digit (a.toNat / 4), base64Digit (a.toNat % 4 * 16 + b.toNat / 16),
        base64Digit (b.toNat % 16 * 4), '=']
  | a :: b :: c :: rest =>
      base64Digit (a.toNat / 4) :: base64Digit (a.toNat % 4 * 16 + b.toNat / 16)
        :: base64Digit (b.toNat % 16 * 4 + c.toNat / 64) :: base64Digit (c.toNat % 64)
        :: base64Chars rest

def base64 (bytes : List UInt8) : String :=
  String.ofList (base64Chars bytes)

def utf8 (text : String) : List UInt8 :=
  text.toUTF8.data.toList

def utf8? (bytes : List UInt8) : Option String :=
  String.fromUTF8? ⟨bytes.toArray⟩

/-- Reading back the bytes of a text gives the text. -/
theorem utf8?_utf8 (text : String) : utf8? (utf8 text) = some text := by
  have whole : (⟨(utf8 text).toArray⟩ : ByteArray) = text.toByteArray := by simp [utf8]
  simp only [utf8?, String.fromUTF8?, whole, text.isValidUTF8, dif_pos]
  rfl

def isContinuation (byte : UInt8) : Bool :=
  0x80 ≤ byte && byte < 0xC0

/-- Whether two bytes can be the first two of a character of three or four bytes: the encoding is
not longer than needed, no surrogate, and not beyond the last code point. -/
def startsCharacter (first second : UInt8) : Bool :=
  if first = 0xE0 then 0xA0 ≤ second && second < 0xC0
  else if first = 0xED then 0x80 ≤ second && second < 0xA0
  else if first = 0xF0 then 0x90 ≤ second && second < 0xC0
  else if first = 0xF4 then 0x80 ≤ second && second < 0x90
  else isContinuation second

/-- The result of reading one character. -/
inductive Utf8Step where
  | character (c : Char) (size : Nat)
  | invalid (size : Nat)
deriving DecidableEq, Repr

def payload (byte : UInt8) : Nat :=
  byte.toNat % 0x40

/-- Reads the character at the start of nonempty bytes. -/
def utf8Step (first : UInt8) (rest : List UInt8) : Utf8Step :=
  if first < 0x80 then .character (Char.ofNat first.toNat) 1
  else if first < 0xC2 then .invalid 1
  else if first < 0xE0 then
    match rest with
    | second :: _ =>
        if isContinuation second then
          .character (Char.ofNat ((first.toNat - 0xC0) * 0x40 + payload second)) 2
        else .invalid 1
    | [] => .invalid 1
  else if first < 0xF0 then
    match rest with
    | second :: rest =>
        if startsCharacter first second then
          match rest with
          | third :: _ =>
              if isContinuation third then
                .character (Char.ofNat
                  (((first.toNat - 0xE0) * 0x40 + payload second) * 0x40 + payload third)) 3
              else .invalid 2
          | [] => .invalid 2
        else .invalid 1
    | [] => .invalid 1
  else if first < 0xF5 then
    match rest with
    | second :: rest =>
        if startsCharacter first second then
          match rest with
          | third :: rest =>
              if isContinuation third then
                match rest with
                | fourth :: _ =>
                    if isContinuation fourth then
                      .character (Char.ofNat
                        ((((first.toNat - 0xF0) * 0x40 + payload second) * 0x40
                          + payload third) * 0x40 + payload fourth)) 4
                    else .invalid 3
                | [] => .invalid 3
              else .invalid 2
          | [] => .invalid 2
        else .invalid 1
    | [] => .invalid 1
  else .invalid 1

/-- The characters of UTF-8 bytes, with the given character for every longest invalid sequence; the
first argument is the number of bytes of the current one that are still to be skipped. -/
def lossyChars (replacement : Char) : Nat → List UInt8 → List Char
  | _, [] => []
  | skip + 1, _ :: rest => lossyChars replacement skip rest
  | 0, first :: rest =>
      match utf8Step first rest with
      | .character c size => c :: lossyChars replacement (size - 1) rest
      | .invalid size => replacement :: lossyChars replacement (size - 1) rest

/-- The text of UTF-8 bytes, with the replacement character for what is invalid. -/
def lossyUtf8 (bytes : List UInt8) : String :=
  String.ofList (lossyChars (Char.ofNat 0xFFFD) 0 bytes)

end VolumeAttacher.Text
