/-!
# Faults in binary messages

What can be wrong with bytes that are to be read as a message, and how one is told of it: by the
fields that lead to the fault, the innermost first, and by the fault itself.
-/

namespace VolumeAttacher.Wire

/-- The forms of fields, which say how long a field is. -/
inductive Form where
  | varint
  | fixed64
  | bytes
  | groupStart
  | groupEnd
  | fixed32
deriving DecidableEq, Repr

namespace Form

def number : Form → Nat
  | varint => 0
  | fixed64 => 1
  | bytes => 2
  | groupStart => 3
  | groupEnd => 4
  | fixed32 => 5

def ofNumber? : Nat → Option Form
  | 0 => some varint
  | 1 => some fixed64
  | 2 => some bytes
  | 3 => some groupStart
  | 4 => some groupEnd
  | 5 => some fixed32
  | _ => none

def name : Form → String
  | varint => "Varint"
  | fixed64 => "SixtyFourBit"
  | bytes => "LengthDelimited"
  | groupStart => "StartGroup"
  | groupEnd => "EndGroup"
  | fixed32 => "ThirtyTwoBit"

@[simp] theorem ofNumber?_number (form : Form) : ofNumber? form.number = some form := by
  cases form <;> rfl

end Form

/-- What is wrong with some bytes. -/
inductive Fault where
  /-- A number has no end or does not fit 64 bits. -/
  | malformedNumber
  /-- The number that starts a field does not fit 32 bits. -/
  | excessiveKey (key : Nat)
  /-- The number that starts a field names no form. -/
  | unknownForm (number : Nat)
  /-- The tag of a field is zero. -/
  | zeroTag
  | unexpectedForm (form expected : Form)
  /-- A field goes on behind the last byte. -/
  | cutShort
  | overrun
  /-- A group ends that has not been started last. -/
  | unmatchedEnd
  /-- Bytes are no text. -/
  | noText
  | tooDeep
deriving DecidableEq, Repr

def Fault.text : Fault → String
  | malformedNumber => "invalid varint"
  | excessiveKey key => s!"invalid key value: {key}"
  | unknownForm number => s!"invalid wire type value: {number}"
  | zeroTag => "invalid tag value: 0"
  | unexpectedForm form expected =>
      s!"invalid wire type: {form.name} (expected {expected.name})"
  | cutShort => "buffer underflow"
  | overrun => "delimited length exceeded"
  | unmatchedEnd => "unexpected end group tag"
  | noText => "invalid string value: data is not UTF-8 encoded"
  | tooDeep => "recursion limit reached"

/-- Why bytes cannot be read as a message. -/
structure DecodeError where
  fault : Fault
  /-- The fields that lead to the fault, the innermost first, each behind the name of its message.
  -/
  place : List (String × String) := []
deriving DecidableEq, Repr

namespace DecodeError

/-- The error as it is seen from a message with a name, in one of whose fields it is. Messages
without a name are passed over. -/
def within (message : Option String) (field : String) (error : DecodeError) : DecodeError :=
  { error with place := error.place ++ message.toList.map (·, field) }

def text (error : DecodeError) : String :=
  let place := error.place.map fun (message, field) => s!"{message}.{field}: "
  "failed to decode Protobuf message: " ++ String.join place ++ error.fault.text

end DecodeError

abbrev Decoded : Type → Type :=
  Except DecodeError

def fail {α : Type} (fault : Fault) : Decoded α :=
  .error { fault }

end VolumeAttacher.Wire
