import VolumeAttacher.Proofs.Wire.Numeral
import VolumeAttacher.Wire.Message

/-!
# Fields that are passed over

What a field looks like can be told without knowing any message: a number that names its tag and its
form, and then a payload of that form. A group is a payload that consists of fields and of a mark
that ends it. Every such field, if its groups nest no deeper than is allowed, is passed over exactly
to its end, and a message that has no slot for its tag stays as it is.
-/

namespace VolumeAttacher.Wire

/-- The tags that fields may have. -/
def IsTag (tag : Nat) : Prop :=
  1 ≤ tag ∧ tag < 2 ^ 29

instance (tag : Nat) : Decidable (IsTag tag) :=
  inferInstanceAs (Decidable (1 ≤ tag ∧ tag < 2 ^ 29))

/-- Bytes that a field of a tag and a form starts with. -/
structure IsStart (tag : Nat) (form : Form) (bytes : List UInt8) : Prop where
  isTag : IsTag tag
  number : IsNumber (tag * 8 + form.number) bytes

/-- Bytes that follow the start of a field that is no group. -/
inductive IsContent : Form → List UInt8 → Prop
  | varint {value : Nat} {bytes : List UInt8} (number : IsNumber value bytes) :
      IsContent .varint bytes
  | fixed64 {bytes : List UInt8} (size : bytes.length = 8) : IsContent .fixed64 bytes
  | fixed32 {bytes : List UInt8} (size : bytes.length = 4) : IsContent .fixed32 bytes
  | bytes {length content : List UInt8} (number : IsNumber content.length length) :
      IsContent .bytes (length ++ content)

/-- Bytes of a field of a tag that nests at most so deep. -/
inductive IsField : Nat → Nat → List UInt8 → Prop
  | plain {depth tag : Nat} {form : Form} {start content : List UInt8}
      (isStart : IsStart tag form start) (isContent : IsContent form content) :
      IsField (depth + 1) tag (start ++ content)
  | group {depth tag : Nat} {start ends : List UInt8} {fields : List (Nat × List UInt8)}
      (isStart : IsStart tag .groupStart start)
      (within : ∀ field ∈ fields, IsField depth field.1 field.2)
      (isEnd : IsStart tag .groupEnd ends) :
      IsField (depth + 1) tag (start ++ fields.flatMap Prod.snd ++ ends)

variable {depth tag : Nat} {form : Form} {bytes chunk : List UInt8}

theorem IsStart.start_append (isStart : IsStart tag form bytes) (rest : List UInt8) :
    start (bytes ++ rest) = .ok ((tag, form), rest) := by
  rcases isStart with ⟨⟨positive, small⟩, number⟩
  have formNumber : form.number < 6 := by cases form <;> decide
  have fits : ¬0x100000000 ≤ tag * 8 + form.number := by omega
  have isForm : (tag * 8 + form.number) % 8 = form.number := by omega
  have isTag : (tag * 8 + form.number) / 8 = tag := by omega
  have notZero : ¬tag * 8 + form.number < 8 := by omega
  simp [start, number.number_append, bind, Except.bind, fits, isForm, isTag, notZero]

theorem split_append {count : Nat} (size : bytes.length = count) (rest : List UInt8) :
    split count (bytes ++ rest) = .ok (bytes, rest) := by
  simp [split, ← size]

theorem IsContent.skipPlain_append (isContent : IsContent form bytes) (rest : List UInt8) :
    skipPlain form (bytes ++ rest) = .ok rest := by
  cases isContent with
  | varint number => simp [skipPlain, number.number_append, bind, Except.bind, pure, Except.pure]
  | fixed64 size | fixed32 size =>
      simp [skipPlain, split_append size, bind, Except.bind, pure, Except.pure]
  | bytes number =>
      simp [skipPlain, number.number_append, split_append, bind, Except.bind, pure, Except.pure]

theorem IsContent.isNoMark (isContent : IsContent form bytes) :
    form ≠ .groupStart ∧ form ≠ .groupEnd := by
  cases isContent <;> simp

theorem IsStart.length_pos (isStart : IsStart tag form bytes) : 0 < bytes.length :=
  List.length_pos_iff.mpr isStart.number.numeral.ne_nil

theorem IsField.length_pos (isField : IsField depth tag chunk) : 0 < chunk.length := by
  cases isField with
  | plain isStart _ => simp [isStart.length_pos]
  | group isStart _ _ => simp [isStart.length_pos]

/-- Whether bytes within a group are passed over in some steps, no more than there are bytes. -/
def Passes (depth : Nat) (bytes : List UInt8) : Prop :=
  ∃ steps ≤ bytes.length, ∀ fuel group outer rest,
    skipGroups (fuel + steps) depth (group :: outer) (bytes ++ rest) =
      skipGroups fuel depth (group :: outer) rest

theorem passes_nil : Passes depth [] :=
  ⟨0, Nat.le_refl 0, fun _ _ _ _ => rfl⟩

theorem Passes.append {more : List UInt8} (first : Passes depth bytes)
    (second : Passes depth more) : Passes depth (bytes ++ more) := by
  rcases first with ⟨steps, few, passes⟩
  rcases second with ⟨others, fewOthers, passesOthers⟩
  refine ⟨others + steps, by simp; omega, ?_⟩
  intro fuel group outer rest
  rw [List.append_assoc, ← Nat.add_assoc, passes, passesOthers]

theorem passes_flatMap {fields : List (Nat × List UInt8)}
    (passes : ∀ field ∈ fields, Passes depth field.2) : Passes depth (fields.flatMap Prod.snd) := by
  induction fields with
  | nil => exact passes_nil
  | cons field fields ih =>
      rcases List.forall_mem_cons.mp passes with ⟨first, others⟩
      exact first.append (ih others)

/-- The end mark is one step more, and it names the group that is innermost then. -/
theorem Passes.exists_leaves {fields ends : List UInt8} (passes : Passes depth fields)
    (isEnd : IsStart tag .groupEnd ends) :
    ∃ steps ≤ fields.length + ends.length, ∀ fuel outer rest,
      skipGroups (fuel + steps) depth (tag :: outer) (fields ++ ends ++ rest) =
        skipGroups fuel (depth + 1) outer rest := by
  rcases passes with ⟨steps, few, passes⟩
  have nonempty := isEnd.length_pos
  refine ⟨1 + steps, by omega, ?_⟩
  intro fuel outer rest
  rw [List.append_assoc, ← Nat.add_assoc, passes]
  simp [skipGroups, isEnd.start_append, bind, Except.bind]

/-- By induction on how groups are nested, for all groups around. -/
theorem IsField.passes (isField : IsField depth tag chunk) : Passes depth chunk := by
  induction isField with
  | @plain depth tag form start content isStart isContent =>
      have nonempty := isStart.length_pos
      refine ⟨1, by simp; omega, ?_⟩
      intro fuel group outer rest
      rcases isContent.isNoMark with ⟨noStart, noEnd⟩
      simp [skipGroups, isStart.start_append, isContent.skipPlain_append, noStart, noEnd, bind,
        Except.bind]
  | @group depth tag start ends fields isStart within isEnd ih =>
      have nonempty := isStart.length_pos
      have passes : Passes depth (fields.flatMap Prod.snd) := passes_flatMap ih
      rcases passes.exists_leaves isEnd with ⟨steps, few, leaves⟩
      refine ⟨steps + 1, by simp only [List.length_append]; omega, ?_⟩
      intro fuel group outer rest
      calc skipGroups (fuel + steps + 1) (depth + 1) (group :: outer)
            (start ++ fields.flatMap Prod.snd ++ ends ++ rest)
        _ = skipGroups (fuel + steps) depth (tag :: group :: outer)
              (fields.flatMap Prod.snd ++ ends ++ rest) := by
            simp [skipGroups, isStart.start_append, bind, Except.bind]
        _ = skipGroups fuel (depth + 1) (group :: outer) rest := leaves _ _ _

theorem skip_eq_skipPlain (noStart : form ≠ .groupStart) (noEnd : form ≠ .groupEnd) :
    skip (depth + 1) tag form bytes = skipPlain form bytes := by
  cases form <;> simp_all [skip]

/-- There are as many steps at hand as bytes, and each step takes one byte at least. -/
theorem IsField.exists_skip (isField : IsField depth tag chunk) (rest : List UInt8) :
    ∃ form after, start (chunk ++ rest) = .ok ((tag, form), after) ∧
      skip depth tag form after = .ok rest := by
  cases isField with
  | @plain depth _ form begins content isStart isContent =>
      rcases isContent.isNoMark with ⟨noStart, noEnd⟩
      refine ⟨form, content ++ rest, by rw [List.append_assoc, isStart.start_append], ?_⟩
      rw [skip_eq_skipPlain noStart noEnd, isContent.skipPlain_append]
  | @group depth _ begins ends fields isStart within isEnd =>
      have passes : Passes depth (fields.flatMap Prod.snd) :=
        passes_flatMap fun field isWithin => (within field isWithin).passes
      rcases passes.exists_leaves isEnd with ⟨steps, few, leaves⟩
      refine ⟨.groupStart, fields.flatMap Prod.snd ++ ends ++ rest, ?_, ?_⟩
      · rw [List.append_assoc, List.append_assoc, isStart.start_append, List.append_assoc]
      · have within : steps ≤ (fields.flatMap Prod.snd ++ ends ++ rest).length := by
          simp only [List.length_append]
          omega
        rcases Nat.exists_eq_add_of_le' within with ⟨fuel, enough⟩
        simp only [skip, Nat.add_eq_zero_iff, one_ne_zero, and_false, if_false, Nat.add_sub_cancel]
        rw [enough, leaves]
        cases fuel <;> rfl

/-- Fields of tags that a message has no slot for change nothing. -/
theorem IsField.takeField_append {α : Type} [Message α] {message : α}
    (isField : IsField depth tag chunk) (noSlot : Message.slot? message tag = none)
    (rest : List UInt8) : takeField depth message (chunk ++ rest) = .ok (message, rest) := by
  rcases isField.exists_skip rest with ⟨form, after, starts, skips⟩
  simp [takeField, starts, skips, noSlot, bind, Except.bind, pure, Except.pure]

end VolumeAttacher.Wire
