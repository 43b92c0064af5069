import VolumeAttacher.Proofs.Wire.Foreign

/-!
# Messages with foreign fields

The outline of a message is what it is written as, where its parts are outlines themselves and not
yet bytes. An outline can be spelled in many ways: between the fields of the message and of each of
its parts there may be any number of fields that are foreign there, and the length of a part counts
those within it. The encoding of a message is the spelling without any.

Bytes are taken up field by field, and foreign fields change nothing, so that it is enough to know
what the fields of an outline do.
-/

namespace VolumeAttacher.Wire

/-- What a field is written as. A part comes with the tags that are known within it. -/
inductive Content where
  | plain (payload : Payload)
  | part (isKnown : Nat → Bool) (fields : List (Nat × Content))

mutual

def Content.payload : Content → Payload
  | .plain payload => payload
  | .part _ fields => .bytes (encodeFields (payloads fields))

/-- The fields of an outline as they are written without foreign ones. -/
def payloads : List (Nat × Content) → List Field
  | [] => []
  | (tag, content) :: rest => (tag, content.payload) :: payloads rest

end

/-- Bytes of the fields of an outline, with foreign fields between them that nest at most so deep,
and at most one level less within each part. -/
inductive Spelled : Nat → (Nat → Bool) → List (Nat × Content) → List UInt8 → Prop
  | nil {depth : Nat} {isKnown : Nat → Bool} : Spelled depth isKnown [] []
  | foreign {depth tag : Nat} {isKnown : Nat → Bool} {fields : List (Nat × Content)}
      {chunk bytes : List UInt8} (unknown : isKnown tag = false) (isField : IsField depth tag chunk)
      (rest : Spelled depth isKnown fields bytes) : Spelled depth isKnown fields (chunk ++ bytes)
  | plain {depth tag : Nat} {isKnown : Nat → Bool} {payload : Payload}
      {fields : List (Nat × Content)} {bytes : List UInt8}
      (rest : Spelled depth isKnown fields bytes) :
      Spelled depth isKnown ((tag, .plain payload) :: fields) (encodeField (tag, payload) ++ bytes)
  | part {depth tag : Nat} {isKnown isKnownWithin : Nat → Bool}
      {within fields : List (Nat × Content)} {content bytes : List UInt8}
      (spelled : Spelled (depth - 1) isKnownWithin within content)
      (rest : Spelled depth isKnown fields bytes) :
      Spelled depth isKnown ((tag, .part isKnownWithin within) :: fields)
        (encodeField (tag, .bytes content) ++ bytes)

/-- The payloads that spell the content of a field. -/
def Content.Spells (depth : Nat) : Content → Payload → Prop
  | .plain own, payload => payload = own
  | .part isKnown fields, payload =>
      ∃ bytes, Spelled (depth - 1) isKnown fields bytes ∧ payload = .bytes bytes

variable {depth fuel tag : Nat} {known : Nat → Bool} {first fields : List (Nat × Content)}
  {bytes : List UInt8}

theorem spelled_payloads (depth : Nat) (known : Nat → Bool) (fields : List (Nat × Content)) :
    Spelled depth known fields (encodeFields (payloads fields)) := by
  match fields with
  | [] =>
      rw [payloads, encodeFields]
      exact .nil
  | (tag, .plain payload) :: rest =>
      rw [payloads, encodeFields, Content.payload]
      exact .plain (spelled_payloads depth known rest)
  | (tag, .part knownWithin within) :: rest =>
      rw [payloads, encodeFields, Content.payload]
      exact .part (spelled_payloads (depth - 1) knownWithin within)
        (spelled_payloads depth known rest)
termination_by sizeOf fields

/-- Foreign fields where both parts meet are counted to the first one. -/
theorem Spelled.exists_append (spelled : Spelled depth known (first ++ fields) bytes) :
    ∃ before after, bytes = before ++ after ∧ Spelled depth known first before ∧
      Spelled depth known fields after := by
  generalize same : first ++ fields = all at spelled
  induction spelled generalizing first with
  | nil =>
      rcases List.append_eq_nil_iff.mp same with ⟨rfl, rfl⟩
      exact ⟨[], [], rfl, .nil, .nil⟩
  | @foreign depth tag known fields chunk bytes unknown isField rest ih =>
      rcases ih same with ⟨before, after, rfl, spelled, spelledAfter⟩
      exact ⟨chunk ++ before, after, by simp, .foreign unknown isField spelled, spelledAfter⟩
  | plain rest ih =>
      cases first with
      | nil =>
          rw [List.nil_append] at same
          exact ⟨[], _, rfl, .nil, same ▸ .plain rest⟩
      | cons field first =>
          rcases List.cons.inj same with ⟨rfl, others⟩
          rcases ih others with ⟨before, after, rfl, spelled, spelledAfter⟩
          exact ⟨_ ++ before, after, (List.append_assoc ..).symm, .plain spelled, spelledAfter⟩
  | part spelledWithin rest _ ih =>
      cases first with
      | nil =>
          rw [List.nil_append] at same
          exact ⟨[], _, rfl, .nil, same ▸ .part spelledWithin rest⟩
      | cons field first =>
          rcases List.cons.inj same with ⟨rfl, others⟩
          rcases ih others with ⟨before, after, rfl, spelled, spelledAfter⟩
          exact ⟨_ ++ before, after, (List.append_assoc ..).symm, .part spelledWithin spelled,
            spelledAfter⟩

theorem Spelled.exists_single {content : Content}
    (spelled : Spelled depth known [(tag, content)] bytes) :
    ∃ before payload after, bytes = before ++ (encodeField (tag, payload) ++ after) ∧
      Spelled depth known [] before ∧ content.Spells depth payload ∧
      Spelled depth known [] after := by
  generalize same : [(tag, content)] = fields at spelled
  induction spelled with
  | nil => contradiction
  | @foreign depth tag known fields chunk bytes unknown isField rest ih =>
      rcases ih same with ⟨before, payload, after, rfl, foreign, spells, foreignAfter⟩
      exact ⟨chunk ++ before, payload, after, (List.append_assoc ..).symm,
        .foreign unknown isField foreign, spells, foreignAfter⟩
  | plain rest =>
      cases same
      exact ⟨[], _, _, rfl, .nil, rfl, rest⟩
  | part spelledWithin rest =>
      cases same
      exact ⟨[], _, _, rfl, .nil, ⟨_, spelledWithin, rfl⟩, rest⟩

section

variable {α : Type} [Message α] {old mid new : α}

/-- Whether bytes consist of fields that make a new message of an old one. -/
inductive TakesUp (depth : Nat) : α → List UInt8 → α → Prop
  | done (message : α) : TakesUp depth message [] message
  | take {old mid new : α} {chunk bytes : List UInt8} (nonempty : 0 < chunk.length)
      (takes : ∀ rest, takeField depth old (chunk ++ rest) = .ok (mid, rest))
      (others : TakesUp depth mid bytes new) : TakesUp depth old (chunk ++ bytes) new

theorem TakesUp.append {more : List UInt8} (taken : TakesUp depth old bytes mid)
    (others : TakesUp depth mid more new) : TakesUp depth old (bytes ++ more) new := by
  induction taken with
  | done => exact others
  | take nonempty takes _ ih =>
      rw [List.append_assoc]
      exact .take nonempty takes (ih others)

theorem takeFields_succ {left : Nat} (more : left < bytes.length) :
    takeFields depth left (fuel + 1) old bytes =
      (takeField depth old bytes).bind fun taken =>
        takeFields depth left fuel taken.1 taken.2 := by
  conv_lhs => unfold takeFields
  simp [Nat.not_lt.mpr (Nat.le_of_lt more), Nat.ne_of_gt more, bind]

theorem TakesUp.takeFields_append (taken : TakesUp depth old bytes new) (rest : List UInt8)
    (enough : bytes.length ≤ fuel) :
    takeFields depth rest.length fuel old (bytes ++ rest) = .ok (new, rest) := by
  induction taken generalizing fuel with
  | done message =>
      unfold takeFields
      simp
  | @take old mid new chunk bytes nonempty takes others ih =>
      rw [List.length_append] at enough
      cases fuel with
      | zero => omega
      | succ fuel =>
          have more : rest.length < (chunk ++ (bytes ++ rest)).length := by
            simp only [List.length_append]
            omega
          rw [List.append_assoc, takeFields_succ more, takes]
          exact ih (by omega)

theorem TakesUp.takePart_append (taken : TakesUp (depth - 1) old bytes new) (deep : 0 < depth)
    (fits : bytes.length < 2 ^ 64) (rest : List UInt8) :
    takePart depth old (varint bytes.length ++ bytes ++ rest) = .ok (new, rest) := by
  have notFlat : depth ≠ 0 := Nat.ne_of_gt deep
  have left : (bytes ++ rest).length - bytes.length = rest.length := by simp
  have long : ¬(bytes ++ rest).length < bytes.length := by simp
  rw [takePart, if_neg notFlat, List.append_assoc, (isNumber_varint fits).number_append]
  simp only [bind, Except.bind, long, if_false, left]
  exact taken.takeFields_append rest (Nat.le_refl _)

theorem TakesUp.decode_eq (taken : TakesUp nestingLimit Message.initial bytes new) :
    decode bytes = .ok new := by
  have taken := taken.takeFields_append [] (Nat.le_refl _)
  rw [List.append_nil, List.length_nil] at taken
  rw [decode, taken]
  rfl

/-- The tags that a message has slots for before any field has been taken up. -/
def isKnown (α : Type) [Message α] (tag : Nat) : Bool :=
  (Message.slot? (Message.initial : α) tag).isSome

/-- Messages that always have slots for the same tags. -/
class Steady (α : Type) [Message α] : Prop where
  isSome_slot? (message : α) (tag : Nat) : (Message.slot? message tag).isSome = isKnown α tag

/-- Whether an outline, however it is spelled, makes a new message of an old one. -/
def Takes (depth : Nat) (fields : List (Nat × Content)) (old new : α) : Prop :=
  ∀ bytes, Spelled depth (isKnown α) fields bytes → bytes.length < 2 ^ 64 →
    TakesUp depth old bytes new

theorem Takes.append (takes : Takes depth first old mid) (others : Takes depth fields mid new) :
    Takes depth (first ++ fields) old new := by
  intro bytes spelled fits
  rcases spelled.exists_append with ⟨before, after, rfl, spelledFirst, spelledOthers⟩
  rw [List.length_append] at fits
  exact (takes before spelledFirst (by omega)).append (others after spelledOthers (by omega))

variable [Steady α]

theorem slot?_eq_none (message : α) (unknown : isKnown α tag = false) :
    Message.slot? message tag = none := by
  rw [← Option.not_isSome_iff_eq_none, Steady.isSome_slot?, unknown]
  simp

theorem takes_nil (message : α) : Takes depth [] message message := by
  intro bytes spelled fits
  generalize same : [] = fields at spelled
  generalize same' : isKnown α = known at spelled
  induction spelled with
  | nil => exact .done message
  | foreign unknown isField rest ih =>
      subst same'
      rw [List.length_append] at fits
      have passed := isField.takeField_append (slot?_eq_none message unknown)
      exact .take isField.length_pos passed (ih (by omega) same rfl)
  | plain | part => contradiction

end

end VolumeAttacher.Wire
