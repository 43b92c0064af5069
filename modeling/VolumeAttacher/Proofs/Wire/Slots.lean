import VolumeAttacher.Proofs.Json.Ordered
import VolumeAttacher.Proofs.Wire.Outline

/-!
# What the fields of an outline do

For each way in which values are written as fields there is a kind of slot that takes such fields
up. A value that is left out is the one that the message has at first. A part is taken up from what
its message has at first, so that it becomes what is written, with the entries of its tables in the
order of their names.
-/

namespace VolumeAttacher.Wire

/-- Messages with an outline that is taken up to the same message, but for the order of its
tables. -/
class Outlined (α : Type) [Message α] extends Steady α where
  outline : α → List (Nat × Content)
  /-- The tables of a message and of its parts. -/
  tables : α → List (Table String)
  /-- The message with its tables in order. -/
  tidy : α → α
  tidy_eq_self (message : α) (ordered : ∀ table ∈ tables message, table.isOrdered = true) :
    tidy message = message
  /-- How deep parts are nested. -/
  rank : Nat
  payloads_outline (message : α) : payloads (outline message) = Message.fields message
  takes {depth : Nat} (enough : rank ≤ depth) (message : α) :
    Takes depth (outline message) Message.initial (tidy message)

export Outlined (outline tables tidy rank)

variable {α : Type} [Message α] {depth tag : Nat} {old new : α} {bytes : List UInt8}
  {name : String}

theorem isStart_key {form : Form} (isTag : IsTag tag) : IsStart tag form (key tag form) := by
  have formNumber : form.number < 6 := by cases form <;> decide
  have small := isTag.2
  exact ⟨isTag, isNumber_varint (by omega)⟩

theorem takeField_key {form : Form} {slot : Slot α} (isTag : IsTag tag)
    (isSlot : Message.slot? old tag = some slot)
    (reads : ∀ rest, slot.read depth form (bytes ++ rest) = .ok (new, rest)) (rest : List UInt8) :
    takeField depth old (key tag form ++ bytes ++ rest) = .ok (new, rest) := by
  have isStart : IsStart tag form (key tag form) := isStart_key isTag
  rw [List.append_assoc, takeField, isStart.start_append]
  simp [isSlot, reads, bind, Except.bind, Except.mapError]

variable [Steady α]

/-- A field is taken up if it is however its content is spelled. -/
theorem takes_single {content : Content}
    (takes : ∀ payload, content.Spells depth payload →
      (encodeField (tag, payload)).length < 2 ^ 64 → 0 < (encodeField (tag, payload)).length ∧
      ∀ rest, takeField depth old (encodeField (tag, payload) ++ rest) = .ok (new, rest)) :
    Takes depth [(tag, content)] old new := by
  intro bytes spelled fits
  rcases spelled.exists_single with ⟨before, payload, after, rfl, foreign, spells, foreignAfter⟩
  simp only [List.length_append] at fits
  rcases takes payload spells (by omega) with ⟨nonempty, takes⟩
  have taken := TakesUp.take nonempty takes (takes_nil new after foreignAfter (by omega))
  exact (takes_nil old before foreign (by omega)).append taken

theorem encodeField_varint (tag value : Nat) :
    encodeField (tag, .varint value) = key tag .varint ++ varint value := by
  rw [encodeField]

theorem encodeField_bytes (tag : Nat) (content : List UInt8) :
    encodeField (tag, .bytes content) = key tag .bytes ++ (varint content.length ++ content) := by
  rw [encodeField, List.append_assoc]

theorem takes_varint {value : Nat} {store : Nat → α} (isTag : IsTag tag)
    (isSlot : Message.slot? old tag = some (.varint name store)) (fits : value < 2 ^ 64) :
    Takes depth [(tag, .plain (.varint value))] old (store value) := by
  refine takes_single fun payload spells _ => ?_
  subst spells
  rw [encodeField_varint]
  refine ⟨?_, takeField_key isTag isSlot fun rest => ?_⟩
  · simp [(isStart_key isTag).length_pos]
  · simp [Slot.varint, Slot.expect, (isNumber_varint fits).number_append, bind, Except.bind, pure,
      Except.pure]

theorem takes_text {value : String} {store : String → α} (isTag : IsTag tag)
    (isSlot : Message.slot? old tag = some (.text name store)) :
    Takes depth [(tag, .plain (.bytes (Text.utf8 value)))] old (store value) := by
  refine takes_single fun payload spells fits => ?_
  subst spells
  rw [encodeField_bytes] at fits ⊢
  simp only [List.length_append] at fits
  have length : IsNumber (Text.utf8 value).length (varint (Text.utf8 value).length) :=
    isNumber_varint (by omega)
  refine ⟨?_, takeField_key isTag isSlot fun rest => ?_⟩
  · simp [(isStart_key isTag).length_pos]
  · simp [Slot.text, Slot.expect, length.number_append, split_append, Text.utf8?_utf8, bind,
      Except.bind, pure, Except.pure]

section

variable {β : Type} [Message β] [Outlined β]

def partContent (part : β) : Content :=
  .part (isKnown β) (outline part)

/-- However a part is spelled, the field is taken up if its slot takes up the part. -/
theorem takes_part_of {slot : Slot α} {part : β} {store : β → α} (isTag : IsTag tag)
    (isSlot : Message.slot? old tag = some slot) (deep : rank β < depth)
    (reads : ∀ bytes after, takePart depth (Message.initial : β) bytes = .ok (tidy part, after) →
      slot.read depth .bytes bytes = .ok (store (tidy part), after)) :
    Takes depth [(tag, partContent part)] old (store (tidy part)) := by
  refine takes_single fun payload spells fits => ?_
  rcases spells with ⟨content, spelled, rfl⟩
  rw [encodeField_bytes] at fits ⊢
  simp only [List.length_append] at fits
  have taken := Outlined.takes (by omega : rank β ≤ depth - 1) part content spelled (by omega)
  refine ⟨?_, takeField_key isTag isSlot fun rest => ?_⟩
  · simp [(isStart_key isTag).length_pos]
  · exact reads _ _ (taken.takePart_append (by omega) (by omega) rest)

theorem takes_part {part : β} {store : β → α} (isTag : IsTag tag)
    (isSlot : Message.slot? old tag = some (.part name Message.initial store))
    (deep : rank β < depth) (isNew : store (tidy part) = new) :
    Takes depth [(tag, partContent part)] old new := by
  subst isNew
  refine takes_part_of isTag isSlot deep fun bytes after taken => ?_
  simp [Slot.part, Slot.expect, taken, bind, Except.bind, pure, Except.pure]

end

/-- Fields that have no parts, as an outline. -/
def plainly (fields : List Field) : List (Nat × Content) :=
  fields.map fun field => (field.1, .plain field.2)

theorem takes_textField {value : String} {store : String → α} (isTag : IsTag tag)
    (isSlot : Message.slot? old tag = some (.text name store)) (isOld : store "" = old)
    (isNew : store value = new) : Takes depth (plainly (textField tag value)) old new := by
  subst isNew
  unfold textField
  split
  next none =>
      rw [none, isOld]
      exact takes_nil old
  next => exact takes_text isTag isSlot

theorem takes_boolField {value : Bool} {store : Bool → α} (isTag : IsTag tag)
    (isSlot : Message.slot? old tag = some (.bool name store)) (isOld : store false = old)
    (isNew : store value = new) : Takes depth (plainly (boolField tag value)) old new := by
  subst isNew
  cases value with
  | false =>
      rw [isOld]
      exact takes_nil old
  | true => exact takes_varint isTag isSlot (by decide)

/-- The number is written with 64 bits, and the lower half of them is the number. -/
theorem toInt32_toInt64 (value : Int32) : value.toInt64.toUInt64.toUInt32.toInt32 = value := by
  apply Int32.toBitVec_inj.mp
  ext i inside
  have within : i < 64 := by omega
  simp [within, BitVec.getElem_signExtend, inside]

theorem takes_int32Field {value : Int32} {store : Int32 → α} (isTag : IsTag tag)
    (isSlot : Message.slot? old tag = some (.int32 name store)) (isOld : store 0 = old)
    (isNew : store value = new) : Takes depth (plainly (int32Field tag value)) old new := by
  subst isNew
  unfold int32Field
  split
  next none =>
      rw [none, isOld]
      exact takes_nil old
  next =>
      have taken : Takes depth [(tag, .plain (.varint value.toInt64.toUInt64.toNat))] old _ :=
        takes_varint isTag isSlot value.toInt64.toUInt64.toNat_lt
      rwa [UInt64.ofNat_toNat, toInt32_toInt64] at taken

theorem takes_int64Field {value : Int64} {store : Int64 → α} (isTag : IsTag tag)
    (isSlot : Message.slot? old tag = some (.int64 name store)) (isOld : store 0 = old)
    (isNew : store value = new) : Takes depth (plainly (int64Field tag value)) old new := by
  subst isNew
  unfold int64Field
  split
  next none =>
      rw [none, isOld]
      exact takes_nil old
  next =>
      have taken : Takes depth [(tag, .plain (.varint value.toUInt64.toNat))] old _ :=
        takes_varint isTag isSlot value.toUInt64.toNat_lt
      rwa [UInt64.ofNat_toNat, Int64.toInt64_toUInt64] at taken

/-- Each value is put behind those that have been taken up before. -/
theorem takes_textFields {values : List String} (store : List String → α) (isTag : IsTag tag)
    (isSlot : ∀ before, Message.slot? (store before) tag =
      some (.text name fun value => store (before ++ [value])))
    (isOld : store [] = old) (isNew : store values = new) :
    Takes depth (plainly (textFields tag values)) old new := by
  suffices ∀ before,
      Takes depth (plainly (textFields tag values)) (store before) (store (before ++ values)) from
    isOld ▸ isNew ▸ this []
  clear isNew
  induction values with
  | nil =>
      intro before
      rw [List.append_nil]
      exact takes_nil (store before)
  | cons value values ih =>
      intro before
      have others := ih (before ++ [value])
      rw [List.append_assoc] at others
      exact (takes_text isTag (isSlot before)).append others

section

variable {β : Type} [Message β] [Outlined β]

def partContents (tag : Nat) (parts : List β) : List (Nat × Content) :=
  parts.map fun part => (tag, partContent part)

theorem takes_parts {parts : List β} (store : List β → α) (isTag : IsTag tag)
    (isSlot : ∀ before, Message.slot? (store before) tag = some (.parts name before store))
    (deep : rank β < depth) (isOld : store [] = old) (isNew : store (parts.map tidy) = new) :
    Takes depth (partContents tag parts) old new := by
  suffices ∀ before,
      Takes depth (partContents tag parts) (store before) (store (before ++ parts.map tidy)) from
    isOld ▸ isNew ▸ this []
  clear isNew
  induction parts with
  | nil =>
      intro before
      rw [List.map_nil, List.append_nil]
      exact takes_nil (store before)
  | cons part parts ih =>
      intro before
      have others := ih (before ++ [tidy part])
      rw [List.append_assoc] at others
      exact (takes_part isTag (isSlot before) deep rfl).append others

theorem takes_optionalPart {part : Option β} {store : Option β → α} (isTag : IsTag tag)
    (isSlot : Message.slot? old tag = some (.optionalPart name none store))
    (deep : rank β < depth) (isOld : store none = old) (isNew : store (part.map tidy) = new) :
    Takes depth (partContents tag part.toList) old new := by
  subst isNew
  cases part with
  | none =>
      rw [Option.map_none, isOld]
      exact takes_nil old
  | some part => exact takes_part isTag isSlot deep rfl

end

section

variable {β : Type} [Message β] [Outlined β]

theorem map_tidy_eq_self {parts : List β}
    (ordered : ∀ table ∈ parts.flatMap tables, table.isOrdered = true) :
    parts.map tidy = parts := by
  conv_rhs => rw [← List.map_id parts]
  refine List.map_congr_left fun part within => ?_
  apply Outlined.tidy_eq_self
  intro table isIts
  exact ordered table (List.mem_flatMap.mpr ⟨part, within, isIts⟩)

theorem optionMap_tidy_eq_self {part : Option β}
    (ordered : ∀ table ∈ part.toList.flatMap tables, table.isOrdered = true) :
    part.map tidy = part := by
  cases part with
  | none => rfl
  | some part =>
      rw [Option.map_some, Outlined.tidy_eq_self part (by simpa using ordered)]

end

@[simp]
theorem payloads_append (fields more : List (Nat × Content)) :
    payloads (fields ++ more) = payloads fields ++ payloads more := by
  induction fields with
  | nil => rw [List.nil_append, payloads, List.nil_append]
  | cons field fields ih => rw [List.cons_append, payloads, payloads, ih, List.cons_append]

@[simp]
theorem payloads_plainly (fields : List Field) : payloads (plainly fields) = fields := by
  induction fields with
  | nil => rw [plainly, List.map_nil, payloads]
  | cons field fields ih => rw [plainly, List.map_cons, payloads, Content.payload, ← plainly, ih]

@[simp]
theorem payloads_partContents {β : Type} [Message β] [Outlined β] (tag : Nat) (parts : List β) :
    payloads (partContents tag parts) = parts.map (partField tag) := by
  induction parts with
  | nil => rw [partContents, List.map_nil, payloads, List.map_nil]
  | cons part parts ih =>
      rw [partContents, List.map_cons, payloads, ← partContents, ih, List.map_cons, partContent,
        Content.payload, Outlined.payloads_outline]
      rfl

instance : Steady TextEntry where
  isSome_slot? entry tag := by
    simp only [isKnown, Message.slot?]
    split <;> rfl

instance : Outlined TextEntry where
  outline entry := plainly (textField 1 entry.key) ++ plainly (textField 2 entry.value)
  tables _ := []
  tidy entry := entry
  tidy_eq_self _ _ := rfl
  rank := 0
  payloads_outline entry := by simp [Message.fields]
  takes {depth} _ entry := by
    have key : Takes depth (plainly (textField 1 entry.key)) ({} : TextEntry)
        { key := entry.key } :=
      takes_textField (by decide) rfl rfl rfl
    exact key.append (takes_textField (by decide) rfl rfl rfl)

def tableContents (tag : Nat) (table : Table String) : List (Nat × Content) :=
  partContents tag (table.map fun entry => ({ key := entry.1, value := entry.2 } : TextEntry))

@[simp]
theorem payloads_tableContents (tag : Nat) (table : Table String) :
    payloads (tableContents tag table) = tableFields tag table := by
  simp [tableContents, tableFields, Function.comp_def]

theorem takes_tableFields {table : Table String} (store : Table String → α) (isTag : IsTag tag)
    (isSlot : ∀ before, Message.slot? (store before) tag = some (.entry name before store))
    (deep : 0 < depth) (isOld : store [] = old) (isNew : store (Table.ofList table) = new) :
    Takes depth (tableContents tag table) old new := by
  suffices ∀ before, Takes depth (tableContents tag table) (store before)
      (store (table.foldl (fun table entry => Table.insert table entry.1 entry.2) before)) from
    isOld ▸ isNew ▸ this []
  clear isNew
  induction table with
  | nil => exact fun before => takes_nil (store before)
  | cons entry table ih =>
      intro before
      let storeEntry (entry : TextEntry) := store (Table.insert before entry.key entry.value)
      have first : Takes depth
          [(tag, partContent ({ key := entry.1, value := entry.2 } : TextEntry))] (store before)
          (storeEntry { key := entry.1, value := entry.2 }) := by
        refine takes_part_of isTag (isSlot before) deep fun bytes after taken => ?_
        change takePart depth ({} : TextEntry) bytes = .ok (⟨entry.1, entry.2⟩, after) at taken
        simp only [Slot.entry, taken, bind, Except.bind]
        rfl
      exact first.append (ih _)

section

variable {β : Type} [Message β] [Outlined β]

theorem encode_eq (message : β) : encode message = encodeFields (payloads (outline message)) := by
  rw [encode, Outlined.payloads_outline]

/-- However a message is spelled, it is read. -/
theorem decode_of_spelled (flat : rank β ≤ nestingLimit) {message : β}
    (spelled : Spelled nestingLimit (isKnown β) (outline message) bytes)
    (fits : bytes.length < 2 ^ 64) : decode bytes = .ok (tidy message) :=
  (Outlined.takes flat message bytes spelled fits).decode_eq

theorem spelled_encode (message : β) :
    Spelled nestingLimit (isKnown β) (outline message) (encode message) := by
  rw [encode_eq]
  exact spelled_payloads _ _ _

end

end VolumeAttacher.Wire
