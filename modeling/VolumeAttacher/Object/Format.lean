import VolumeAttacher.Json.Basic
import VolumeAttacher.Time.Timestamp
import VolumeAttacher.Text.Bytes

/-!
# Fields of cluster objects

Reading and writing the fields that cluster objects are made of. A field that is absent or `null`
has no value; a field of the wrong type makes the whole object unreadable; fields that are not asked
for are dropped.
-/

namespace VolumeAttacher.Format

/-- Reads one field of an object. The outer option fails if the field has the wrong type. -/
def field? {α : Type} (members : Table Json) (name : String) (read : Json → Option α) :
    Option (Option α) :=
  match Table.find? members name with
  | none | some .null => some none
  | some value => (read value).map some

/-- Reads one field of an object, with a value for an absent one. -/
def fieldD? {α : Type} (members : Table Json) (name : String) (read : Json → Option α)
    (absent : α) : Option α :=
  (field? members name read).map fun value => value.getD absent

def list? {α : Type} (read : Json → Option α) (value : Json) : Option (List α) :=
  value.items?.bind fun items => items.mapM read

def table? {α : Type} (read : Json → Option α) (value : Json) : Option (Table α) :=
  value.members?.bind fun members =>
    members.mapM fun entry => (read entry.2).map fun value => (entry.1, value)

def timestamp? (value : Json) : Option Timestamp :=
  value.text?.bind Timestamp.ofText?

/-- Reads bytes in base64; there are none in `null`. -/
def bytes? (value : Json) : Option (List UInt8) :=
  if value = .null then some [] else value.text?.bind Text.unbase64?

/-- Reads the members of an object of a kind and version, both of which may be left out. -/
def resource? (apiVersion kind : String) (value : Json) : Option (Table Json) := do
  let members ← value.members?
  guard ((Table.find? members "apiVersion").all (· = .text apiVersion))
  guard ((Table.find? members "kind").all (· = .text kind))
  return members

/-- The object with the given fields; fields without a value are left out. -/
def written (fields : List (String × Option Json)) : Json :=
  .ofMembers (fields.filterMap fun entry => entry.2.map fun value => (entry.1, value))

def ofStrings (items : List String) : Json :=
  .array (items.map .text)

def ofStringTable (table : Table String) : Json :=
  .object (Table.mapValues .text table)

def ofTimestamp (timestamp : Timestamp) : Json :=
  .text timestamp.text

end VolumeAttacher.Format
