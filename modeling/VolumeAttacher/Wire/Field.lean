import VolumeAttacher.Wire.Fault
import VolumeAttacher.Wire.Varint

/-!
# Fields of binary messages

A binary message is a sequence of fields, each a tag and a payload. `encodeFields` writes them. The
start of a field tells its tag and its form, and `skip` passes over the rest of a field of any form,
with no knowledge of what the tag means, so that fields of tags that a message does not know can be
left aside.

Groups are the one nested form that can be passed over without knowing the message. They nest at
most to a given depth.
-/

namespace VolumeAttacher.Wire

/-- The content of a field. -/
inductive Payload where
  /-- A number below `2 ^ 64`. -/
  | varint (value : Nat)
  | fixed64 (bytes : List UInt8)
  | bytes (content : List UInt8)
  | group (fields : List (Nat × Payload))
  | fixed32 (bytes : List UInt8)

abbrev Field := Nat × Payload

def key (tag : Nat) (form : Form) : List UInt8 :=
  varint (tag * 8 + form.number)

mutual

def encodeField : Field → List UInt8
  | (tag, .varint value) => key tag .varint ++ varint value
  | (tag, .fixed64 bytes) => key tag .fixed64 ++ bytes
  | (tag, .bytes content) => key tag .bytes ++ varint content.length ++ content
  | (tag, .group fields) => key tag .groupStart ++ encodeFields fields ++ key tag .groupEnd
  | (tag, .fixed32 bytes) => key tag .fixed32 ++ bytes

def encodeFields : List Field → List UInt8
  | [] => []
  | field :: rest => encodeField field ++ encodeFields rest

end

def number (bytes : List UInt8) : Decoded (Nat × List UInt8) :=
  match varint? bytes with
  | some (value, rest) => .ok (value, rest)
  | none => fail .malformedNumber

def split (count : Nat) (bytes : List UInt8) : Decoded (List UInt8 × List UInt8) :=
  if count ≤ bytes.length then .ok (bytes.take count, bytes.drop count) else fail .cutShort

/-- Reads the number that starts a field: its tag, which is not zero, and its form. -/
def start (bytes : List UInt8) : Decoded ((Nat × Form) × List UInt8) := do
  let (key, rest) ← number bytes
  if 0x100000000 ≤ key then fail (.excessiveKey key)
  else
    match Form.ofNumber? (key % 8) with
    | none => fail (.unknownForm (key % 8))
    | some form => if key < 8 then fail .zeroTag else .ok ((key / 8, form), rest)

/-- Passes over the payload of a field that is no group. The marks of groups have no payload. -/
def skipPlain (form : Form) (bytes : List UInt8) : Decoded (List UInt8) := do
  match form with
  | .varint => return (← number bytes).2
  | .fixed64 => return (← split 8 bytes).2
  | .bytes =>
      let (length, rest) ← number bytes
      return (← split length rest).2
  | .fixed32 => return (← split 4 bytes).2
  | .groupStart | .groupEnd => return bytes

/-- Passes over the fields in groups that have been started, and over their end marks. The groups
are given by their tags, the innermost first, and what is in the innermost may nest `depth` deep.
The fuel bounds the number of fields and marks; the number of bytes always suffices. -/
def skipGroups : Nat → Nat → List Nat → List UInt8 → Decoded (List UInt8)
  | _, _, [], bytes => .ok bytes
  | 0, _, _ :: _, _ => fail .malformedNumber
  | fuel + 1, depth, group :: outer, bytes => do
    let ((tag, form), rest) ← start bytes
    if form = .groupEnd then
      if tag = group then skipGroups fuel (depth + 1) outer rest else fail .unmatchedEnd
    else if depth = 0 then fail .tooDeep
    else if form = .groupStart then skipGroups fuel (depth - 1) (tag :: group :: outer) rest
    else skipGroups fuel depth (group :: outer) (← skipPlain form rest)

/-- Passes over what follows the start of a field. The field may nest `depth` deep. -/
def skip (depth tag : Nat) (form : Form) (bytes : List UInt8) :
    Decoded (List UInt8) :=
  if depth = 0 then fail .tooDeep
  else
    match form with
    | .groupStart => skipGroups bytes.length (depth - 1) [tag] bytes
    | .groupEnd => fail .unmatchedEnd
    | form => skipPlain form bytes

end VolumeAttacher.Wire
