import VolumeAttacher.Number.Numeral
import VolumeAttacher.Table

/-!
# JSON values

Objects are tables: member lists in name order without repeated names, as `Json.ofMembers` and the
reader build them. Numbers are told apart as JSON readers with fixed-width numbers tell them apart:
a whole number written without fraction or exponent stays whole, any other is a binary floating
point number.
-/

namespace VolumeAttacher

/-- A number of a JSON text. -/
inductive JsonNumber where
  | whole (value : Int)
  /-- The floating point number `significand * 2 ^ exponent`, with an odd significand, or zero. -/
  | real (significand exponent : Int)
deriving DecidableEq, Repr

/-- A JSON value. -/
inductive Json where
  /-- The value `null`. -/
  | null
  | bool (value : Bool)
  | number (value : JsonNumber)
  | text (value : String)
  | array (items : List Json)
  | object (members : List (String × Json))

namespace Json

mutual

def same : Json → Json → Bool
  | .null, .null => true
  | .bool left, .bool right => left == right
  | .number left, .number right => left == right
  | .text left, .text right => left == right
  | .array left, .array right => sameItems left right
  | .object left, .object right => sameMembers left right
  | _, _ => false

def sameItems : List Json → List Json → Bool
  | [], [] => true
  | left :: lefts, right :: rights => same left right && sameItems lefts rights
  | _, _ => false

def sameMembers : List (String × Json) → List (String × Json) → Bool
  | [], [] => true
  | (name, left) :: lefts, (name', right) :: rights =>
      name == name' && same left right && sameMembers lefts rights
  | _, _ => false

end

mutual

theorem same_refl : ∀ value : Json, same value value = true
  | .null => rfl
  | .bool value => by simp [same]
  | .number value => by simp [same]
  | .text value => by simp [same]
  | .array items => by simp [same, sameItems_refl items]
  | .object members => by simp [same, sameMembers_refl members]

theorem sameItems_refl : ∀ items : List Json, sameItems items items = true
  | [] => rfl
  | item :: items => by simp [sameItems, same_refl item, sameItems_refl items]

theorem sameMembers_refl : ∀ members : List (String × Json), sameMembers members members = true
  | [] => rfl
  | (name, value) :: members => by
    simp [sameMembers, same_refl value, sameMembers_refl members]

end

mutual

theorem eq_of_same : ∀ {left right : Json}, same left right = true → left = right
  | .null, .null, _ => rfl
  | .bool _, .bool _, equal => by simpa [same] using equal
  | .number _, .number _, equal => by simpa [same] using equal
  | .text _, .text _, equal => by simpa [same] using equal
  | .array left, .array right, equal => by
    rw [eq_of_sameItems (by simpa [same] using equal : sameItems left right = true)]
  | .object left, .object right, equal => by
    rw [eq_of_sameMembers (by simpa [same] using equal : sameMembers left right = true)]
  | .null, .bool _, equal | .null, .number _, equal | .null, .text _, equal
  | .null, .array _, equal | .null, .object _, equal
  | .bool _, .null, equal | .bool _, .number _, equal | .bool _, .text _, equal
  | .bool _, .array _, equal | .bool _, .object _, equal
  | .number _, .null, equal | .number _, .bool _, equal | .number _, .text _, equal
  | .number _, .array _, equal | .number _, .object _, equal
  | .text _, .null, equal | .text _, .bool _, equal | .text _, .number _, equal
  | .text _, .array _, equal | .text _, .object _, equal
  | .array _, .null, equal | .array _, .bool _, equal | .array _, .number _, equal
  | .array _, .text _, equal | .array _, .object _, equal
  | .object _, .null, equal | .object _, .bool _, equal | .object _, .number _, equal
  | .object _, .text _, equal | .object _, .array _, equal => by simp [same] at equal

theorem eq_of_sameItems : ∀ {left right : List Json}, sameItems left right = true → left = right
  | [], [], _ => rfl
  | left :: lefts, right :: rights, equal => by
    simp only [sameItems, Bool.and_eq_true] at equal
    rw [eq_of_same equal.1, eq_of_sameItems equal.2]
  | [], _ :: _, equal => by simp [sameItems] at equal
  | _ :: _, [], equal => by simp [sameItems] at equal

theorem eq_of_sameMembers :
    ∀ {left right : List (String × Json)}, sameMembers left right = true → left = right
  | [], [], _ => rfl
  | (name, left) :: lefts, (name', right) :: rights, equal => by
    simp only [sameMembers, Bool.and_eq_true, beq_iff_eq] at equal
    rw [equal.1.1, eq_of_same equal.1.2, eq_of_sameMembers equal.2]
  | [], (_, _) :: _, equal => by simp [sameMembers] at equal
  | (_, _) :: _, [], equal => by simp [sameMembers] at equal

end

instance : DecidableEq Json := fun left right =>
  if equal : same left right = true then isTrue (eq_of_same equal)
  else isFalse fun eq => equal (eq ▸ same_refl left)

instance : Inhabited Json := ⟨.null⟩

def ofInt (value : Int) : Json :=
  .number (.whole value)

def ofNat (value : Nat) : Json :=
  ofInt value

/-- The object with the given members; of two members of one name the later one counts. -/
def ofMembers (members : List (String × Json)) : Json :=
  .object (Table.ofList members)

/-- The members of an object; any other value has none. -/
def members : Json → Table Json
  | .object members => members
  | _ => []

/-- The member of an object under a name. Other values have no members, and `null` is no member. -/
def member? (value : Json) (name : String) : Option Json :=
  match Table.find? value.members name with
  | some .null => none
  | found => found

def text? : Json → Option String
  | .text value => some value
  | _ => none

def bool? : Json → Option Bool
  | .bool value => some value
  | _ => none

def int? : Json → Option Int
  | .number (.whole value) => some value
  | _ => none

/-- The whole number of a value, if it fits 32 bits. -/
def int32? (value : Json) : Option Int :=
  value.int?.filter fun n => -0x80000000 ≤ n ∧ n < 0x80000000

/-- The whole number of a value, if it fits 64 bits. -/
def int64? (value : Json) : Option Int :=
  value.int?.filter fun n => -0x8000000000000000 ≤ n ∧ n < 0x8000000000000000

def nat? (value : Json) : Option Nat :=
  (value.int?.filter (0 ≤ ·)).map Int.toNat

def items? : Json → Option (List Json)
  | .array items => some items
  | _ => none

def members? : Json → Option (Table Json)
  | .object members => some members
  | _ => none

end Json

end VolumeAttacher
