import VolumeAttacher.Table
import VolumeAttacher.Text.Bytes
import VolumeAttacher.Wire.Field

/-!
# Binary messages

A message knows the fields it is written as, and a slot for each tag that it can take up: what a
field of the tag looks like and what it does to the message. Fields of other tags change nothing. A
single value is replaced by a later one, a list grows, and a part that is a message itself takes up
the fields of a later one.

The helpers below are the forms in which single fields are written and the kinds of slots. A value
equal to the initial one is left out.
-/

namespace VolumeAttacher.Wire

/-- What a field of one tag does to a message. -/
structure Slot (α : Type) where
  name : String
  /-- Reads what follows the start of the field and changes the message. The field may nest so deep.
  -/
  read : Nat → Form → List UInt8 → Decoded (α × List UInt8)

/-- A type of messages. -/
class Message (α : Type) where
  /-- The name by which errors are told, if messages of the type have one. -/
  name? : Option String
  /-- The message without any fields. -/
  initial : α
  fields : α → List Field
  /-- The slot of a message for a tag, unless fields of the tag are left aside. -/
  slot? : α → Nat → Option (Slot α)

def nestingLimit : Nat := 100

section

variable {α : Type} [Message α]

def encode (message : α) : List UInt8 :=
  encodeFields (Message.fields message)

def takeField (depth : Nat) (message : α) (bytes : List UInt8) : Decoded (α × List UInt8) := do
  let ((tag, form), rest) ← start bytes
  match Message.slot? message tag with
  | none => return (message, ← skip depth tag form rest)
  | some slot => (slot.read depth form rest).mapError (·.within (Message.name? α) slot.name)

/-- Takes up fields until so many bytes are left. The fuel bounds the number of fields; the number
of bytes to be read always suffices. -/
def takeFields (depth left : Nat) : Nat → α → List UInt8 → Decoded (α × List UInt8)
  | fuel, message, bytes =>
      if bytes.length < left then fail .overrun
      else if bytes.length = left then .ok (message, bytes)
      else
        match fuel with
        | 0 => fail .cutShort
        | fuel + 1 => do
          let (message, rest) ← takeField depth message bytes
          takeFields depth left fuel message rest

/-- Takes up the fields of a part, which its length stands in front of. -/
def takePart (depth : Nat) (part : α) (bytes : List UInt8) : Decoded (α × List UInt8) := do
  if depth = 0 then fail .tooDeep
  else
    let (length, rest) ← number bytes
    if rest.length < length then fail .cutShort
    else takeFields (depth - 1) (rest.length - length) length part rest

def decode (bytes : List UInt8) : Decoded α :=
  (takeFields nestingLimit 0 bytes.length Message.initial bytes).map Prod.fst

end

def textField (tag : Nat) (value : String) : List Field :=
  if value = "" then [] else [(tag, .bytes (Text.utf8 value))]

def textFields (tag : Nat) (values : List String) : List Field :=
  values.map fun value => (tag, .bytes (Text.utf8 value))

def boolField (tag : Nat) (value : Bool) : List Field :=
  if value then [(tag, .varint 1)] else []

def int32Field (tag : Nat) (value : Int32) : List Field :=
  if value = 0 then [] else [(tag, .varint value.toInt64.toUInt64.toNat)]

def int64Field (tag : Nat) (value : Int64) : List Field :=
  if value = 0 then [] else [(tag, .varint value.toUInt64.toNat)]

def partField {α : Type} [Message α] (tag : Nat) (part : α) : Field :=
  (tag, .bytes (encode part))

def optionalPart {α : Type} [Message α] (tag : Nat) (part : Option α) : List Field :=
  part.toList.map (partField tag)

/-- An entry of a table of strings. -/
structure TextEntry where
  key : String := ""
  value : String := ""
deriving DecidableEq

namespace Slot

/-- Fails unless a field has the form that is expected. -/
def expect (form expected : Form) : Decoded Unit :=
  if form = expected then .ok () else fail (.unexpectedForm form expected)

variable {α : Type}

def text (name : String) (store : String → α) : Slot α where
  name
  read _ form bytes := do
    expect form .bytes
    let (length, rest) ← number bytes
    let (content, rest) ← split length rest
    match Text.utf8? content with
    | some value => return (store value, rest)
    | none => fail .noText

def varint (name : String) (store : Nat → α) : Slot α where
  name
  read _ form bytes := do
    expect form .varint
    let (value, rest) ← number bytes
    return (store value, rest)

/-- A truth value: whether a number is not zero. -/
def bool (name : String) (store : Bool → α) : Slot α :=
  varint name fun value => store (value != 0)

def int32 (name : String) (store : Int32 → α) : Slot α :=
  varint name fun value => store (UInt64.ofNat value).toUInt32.toInt32

def int64 (name : String) (store : Int64 → α) : Slot α :=
  varint name fun value => store (UInt64.ofNat value).toInt64

/-- A part, given what it is before the field is taken up. -/
def part {β : Type} [Message β] (name : String) (before : β) (store : β → α) : Slot α where
  name
  read depth form bytes := do
    expect form .bytes
    let (part, rest) ← takePart depth before bytes
    return (store part, rest)

/-- A part that may be absent before. -/
def optionalPart {β : Type} [Message β] (name : String) (before : Option β)
    (store : Option β → α) : Slot α :=
  part name (before.getD Message.initial) fun after => store (some after)

def parts {β : Type} [Message β] (name : String) (before : List β) (store : List β → α) : Slot α :=
  part name Message.initial fun one => store (before ++ [one])

end Slot

instance : Message TextEntry where
  name? := none
  initial := {}
  fields entry := textField 1 entry.key ++ textField 2 entry.value
  slot? entry
    | 1 => some (.text "key" fun key => { entry with key })
    | 2 => some (.text "value" fun value => { entry with value })
    | _ => none

def tableFields (tag : Nat) (table : Table String) : List Field :=
  table.map fun entry => partField tag ({ key := entry.1, value := entry.2 } : TextEntry)

/-- One more entry of a table of strings. It is a part whatever form the field has. -/
def Slot.entry {α : Type} (name : String) (before : Table String) (store : Table String → α) :
    Slot α where
  name
  read depth _ bytes := do
    let (entry, rest) ← takePart depth ({} : TextEntry) bytes
    return (store (Table.insert before entry.key entry.value), rest)

end VolumeAttacher.Wire
