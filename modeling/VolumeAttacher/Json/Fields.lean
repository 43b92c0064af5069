import VolumeAttacher.Json.Basic

/-!
# Fields with defaults

Lenient reading of the members of an object: a member that is absent, `null` or of another type
counts as missing, and a missing member has a default. An array that stands for a step of a scenario
is read in the same way by positions.
-/

namespace VolumeAttacher.Json

/-- A member, or `null`. -/
def part (json : Json) (name : String) : Json :=
  (json.member? name).getD .null

def textAt? (json : Json) (name : String) : Option String :=
  (json.member? name).bind text?

/-- The text of a member, or the empty one. -/
def textAt (json : Json) (name : String) : String :=
  (json.textAt? name).getD ""

def intAt? (json : Json) (name : String) : Option Int :=
  (json.member? name).bind int64?

/-- The whole number of a member, or zero. -/
def intAt (json : Json) (name : String) : Int :=
  (json.intAt? name).getD 0

def natAt? (json : Json) (name : String) : Option Nat :=
  (json.member? name).bind nat?

/-- The natural number of a member, or zero. -/
def natAt (json : Json) (name : String) : Nat :=
  (json.natAt? name).getD 0

def boolAt? (json : Json) (name : String) : Option Bool :=
  (json.member? name).bind bool?

/-- The truth value of a member, or `false`. -/
def boolAt (json : Json) (name : String) : Bool :=
  (json.boolAt? name).getD false

/-- The items of an array; any other value has none. -/
def items (json : Json) : List Json :=
  json.items?.getD []

def itemsAt (json : Json) (name : String) : List Json :=
  ((json.member? name).map items).getD []

def textsAt (json : Json) (name : String) : List String :=
  (json.itemsAt name).filterMap text?

def textTableAt (json : Json) (name : String) : Table String :=
  (json.part name).members.filterMap fun entry => entry.2.text?.map (entry.1, ·)

/-- The item at a position, or `null`. -/
def item (json : Json) (position : Nat) : Json :=
  json.items[position]?.getD .null

/-- The text of the item at a position, or the empty one. -/
def textItem (json : Json) (position : Nat) : String :=
  (json.item position).text?.getD ""

/-- The natural number of the item at a position, or zero. -/
def natItem (json : Json) (position : Nat) : Nat :=
  (json.item position).nat?.getD 0

def int32At? (json : Json) (name : String) : Option Int32 :=
  (json.intAt? name).map Int32.ofInt

/-- The lower 32 bits of the whole number of a member, or zero. -/
def int32At (json : Json) (name : String) : Int32 :=
  (json.int32At? name).getD 0

/-- The lower 32 bits of the whole number of the item at a position, or zero. -/
def int32Item (json : Json) (position : Nat) : Int32 :=
  Int32.ofInt ((json.item position).int64?.getD 0)

def ofInt32 (value : Int32) : Json :=
  ofInt value.toInt

def ofTexts (texts : List String) : Json :=
  .array (texts.map .text)

def ofTextTable (table : Table String) : Json :=
  ofMembers (table.map fun entry => (entry.1, .text entry.2))

def ofNatTable (table : Table Nat) : Json :=
  ofMembers (table.map fun entry => (entry.1, ofNat entry.2))

def ofOption {α : Type} (encode : α → Json) (value : Option α) : Json :=
  value.elim .null encode

def ofExcept {ε α : Type} (failed : ε → Json) (done : α → Json) : Except ε α → Json
  | .ok value => done value
  | .error cause => failed cause

end VolumeAttacher.Json
