import VolumeAttacher.Object.Format

/-!
# Shapes of fields

Objects of the cluster have many fields that attaching does not look at but that have to be kept and
have to be of the right type. The shape of such a field tells which values are right, and reading a
value by its shape brings it into the form in which it is written again: without fields that the
shape does not know of, and with all fields that must be there.
-/

namespace VolumeAttacher

/-- What the values of a field look like. -/
structure Shape where
  read? : Json → Option Json
  /-- What is written for a field that must be there and is not. -/
  absent : Json

namespace Shape

def text : Shape where
  read? value := value.text?.map .text
  absent := .text ""

def flag : Shape where
  read? value := value.bool?.map .bool
  absent := .bool false

def int32 : Shape where
  read? value := value.int32?.map .ofInt
  absent := .ofInt 0

def int64 : Shape where
  read? value := value.int64?.map .ofInt
  absent := .ofInt 0

def time : Shape where
  read? value := (Format.timestamp? value).map Format.ofTimestamp
  absent := .null

def list (items : Shape) : Shape where
  read? value := (Format.list? items.read? value).map .array
  absent := .array []

def table (values : Shape) : Shape where
  read? value := (Format.table? values.read? value).map .object
  absent := .object []

def requiredFields? (fields : List (String × Shape)) (members : Table Json) :
    Option (List (String × Json)) :=
  fields.mapM fun (name, shape) =>
    (Format.fieldD? members name shape.read? shape.absent).map fun value => (name, value)

def optionalFields? (fields : List (String × Shape)) (members : Table Json) :
    Option (List (String × Json)) :=
  let read (field : String × Shape) : Option (Option (String × Json)) :=
    (Format.field? members field.1 field.2.read?).map fun value => value.map (field.1, ·)
  (fields.mapM read).map fun found => found.filterMap id

/-- An object with some fields that must be there and some that may be absent. -/
def record (required optional : List (String × Shape)) : Shape where
  read? value := do
    let members ← value.members?
    return .ofMembers
      ((← requiredFields? required members) ++ (← optionalFields? optional members))
  absent := .ofMembers (required.map fun (name, shape) => (name, shape.absent))

def each (names : List String) (shape : Shape) : List (String × Shape) :=
  names.map fun name => (name, shape)

def texts (names : List String) : List (String × Shape) :=
  each names text

end Shape

end VolumeAttacher
