import Mathlib.Data.List.Basic
import Mathlib.Data.Nat.Basic
import Std.Data.String.ToInt
import VolumeAttacher.Text.Quoted

/-!
# Legible notations

A notation is legible if a text that begins with a written value begins with no other one, and if it
is clear where the value ends. Quoted texts are legible, and so are lists, maps and optional values
of what is legible, whatever characters occur in them.
-/

namespace VolumeAttacher.Text

/-- What a text begins with, and where that ends, can be told. -/
def IsLegible {α : Type} (write : α → List Char) : Prop :=
  ∀ ⦃first second : α⦄ ⦃left right : List Char⦄,
    write first ++ left = write second ++ right → first = second ∧ left = right

variable {α : Type} {write : α → List Char}

theorem digitChar_inj {m n : Nat} (small : m < 16) (other : n < 16)
    (same : m.digitChar = n.digitChar) : m = n := by
  have all : ∀ i j : Fin 16, (i : Nat).digitChar = (j : Nat).digitChar → i = j := by decide
  exact Fin.mk.inj (all ⟨m, small⟩ ⟨n, other⟩ same)

theorem toDigits_injective : Function.Injective (Nat.toDigits 16) := by
  intro m n same
  induction m using Nat.strongRecOn generalizing n with
  | ind m ih =>
      rw [Nat.toDigits_eq_if (n := m) (by decide), Nat.toDigits_eq_if (n := n) (by decide)] at same
      have filled (k : Nat) : Nat.toDigits 16 k ≠ [] := Nat.toDigits_ne_nil
      split at same <;> split at same
      case isTrue.isTrue small other =>
          exact digitChar_inj small other (List.singleton_inj.mp same)
      case isTrue.isFalse =>
          exact absurd (List.append_eq_singleton_iff.mp same.symm) (by simp [filled])
      case isFalse.isTrue =>
          exact absurd (List.append_eq_singleton_iff.mp same) (by simp [filled])
      case isFalse.isFalse large _ =>
          rcases List.append_inj' same rfl with ⟨front, last⟩
          have quotient := ih (m / 16) (by omega) front
          have remainder := digitChar_inj (m.mod_lt (by decide)) (n.mod_lt (by decide))
            (List.singleton_inj.mp last)
          omega

theorem not_mem_toDigits (n : Nat) : '\x7d' ∉ Nat.toDigits 16 n := by
  induction n using Nat.strongRecOn with
  | ind n ih =>
      have noDigit (k : Nat) : '\x7d' ≠ k.digitChar := (Nat.digitChar_ne _ (by decide)).symm
      rw [Nat.toDigits_eq_if (by decide)]
      split
      · simp [noDigit]
      · next large => simp [noDigit, ih (n / 16) (by omega)]

/-- A mark that no value has in it ends a value. -/
theorem isLegible_ended (injective : Function.Injective write) {stop : Char}
    (stops : ∀ value, stop ∉ write value) : IsLegible fun value => write value ++ [stop] := by
  intro first second left right same
  have front (value : α) (rest : List Char) :
      (write value ++ [stop] ++ rest).takeWhile (· ≠ stop) = write value := by
    have before : ∀ c ∈ write value, decide (c ≠ stop) = true := by
      intro c mem
      have other : c ≠ stop := fun same => stops value (same ▸ mem)
      simpa using other
    rw [List.append_assoc, List.takeWhile_append_of_pos before]
    simp
  have start := congrArg (List.takeWhile (· ≠ stop)) same
  rw [front, front] at start
  rcases injective start with rfl
  exact ⟨rfl, List.append_cancel_left same⟩

theorem isLegible_codePointEscape : IsLegible codePointEscape := by
  have injective : Function.Injective fun c : Char => Nat.toDigits 16 c.toNat := by
    intro first second same
    exact Char.toNat_inj.mp (toDigits_injective same)
  intro first second left right same
  refine isLegible_ended injective (fun c => not_mem_toDigits c.toNat) ?_
  simpa [codePointEscape] using same

/-- The characters with an escape of two characters, and the second one of it. -/
def shortEscapes : List (Char × Char) :=
  [('"', '"'), ('\\', '\\'), ('\t', 't'), ('\n', 'n'), ('\r', 'r'), ('\x00', '0')]

/-- What a character can be quoted as. -/
inductive IsQuotedAs : Char → List Char → Prop where
  | short {c escape : Char} (escapes : (c, escape) ∈ shortEscapes) : IsQuotedAs c ['\\', escape]
  | plain {c : Char} (noQuote : c ≠ '"') (noBackslash : c ≠ '\\') : IsQuotedAs c [c]
  | codePoint (c : Char) : IsQuotedAs c (codePointEscape c)

theorem isQuotedAs_quotedChar (c : Char) : IsQuotedAs c (quotedChar c) := by
  unfold quotedChar
  split
  case h_7 noQuote noBackslash _ _ _ _ =>
      split
      · exact .plain (by simpa using noQuote) (by simpa using noBackslash)
      · exact .codePoint _
  all_goals exact .short (by decide)

/-- A backslash tells an escape from a plain character, and what follows it one escape from others.
-/
theorem isLegible_quotedChar : IsLegible quotedChar := by
  intro first second left right same
  have one := isQuotedAs_quotedChar first
  have other := isQuotedAs_quotedChar second
  have told : ∀ entry ∈ shortEscapes, ∀ later ∈ shortEscapes,
      entry.2 = later.2 → entry.1 = later.1 := by decide
  have noCode : ∀ entry ∈ shortEscapes, entry.2 ≠ 'u' := by decide
  generalize quotedChar first = shown at one same
  generalize quotedChar second = shownOther at other same
  cases one with
  | short escapes =>
      cases other with
      | short escapesOther =>
          simp only [List.cons_append, List.nil_append, List.cons.injEq, true_and] at same
          exact ⟨told _ escapes _ escapesOther same.1, same.2⟩
      | plain _ noBackslash => exact absurd (List.head_eq_of_cons_eq same).symm noBackslash
      | codePoint =>
          simp only [codePointEscape, List.cons_append, List.nil_append, List.cons.injEq, true_and]
            at same
          exact absurd same.1 (noCode _ escapes)
  | plain _ noBackslash =>
      cases other with
      | short => exact absurd (List.head_eq_of_cons_eq same) noBackslash
      | plain => exact List.cons.inj same
      | codePoint => exact absurd (List.head_eq_of_cons_eq same) noBackslash
  | codePoint =>
      cases other with
      | short escapes =>
          simp only [codePointEscape, List.cons_append, List.nil_append, List.cons.injEq, true_and]
            at same
          exact absurd same.1.symm (noCode _ escapes)
      | plain _ noBackslash => exact absurd (List.head_eq_of_cons_eq same).symm noBackslash
      | codePoint => exact isLegible_codePointEscape same

theorem quotedChar_eq_cons (c : Char) :
    ∃ first rest, quotedChar c = first :: rest ∧ first ≠ '"' := by
  have quotedAs := isQuotedAs_quotedChar c
  generalize quotedChar c = shown at quotedAs
  cases quotedAs with
  | short => exact ⟨_, _, rfl, by decide⟩
  | plain noQuote => exact ⟨_, _, rfl, noQuote⟩
  | codePoint => exact ⟨_, _, rfl, by decide⟩

/-- Values are told apart one after the other, until a mark that none of them begins with. If one
side ends first, its mark meets a value of the other. -/
theorem IsLegible.flatMap (legible : IsLegible write) (stop : Char)
    (starts : ∀ value, ∃ first rest, write value = first :: rest ∧ first ≠ stop) :
    IsLegible fun values : List α => values.flatMap write ++ [stop] := by
  intro first second left right same
  induction first generalizing second with
  | nil =>
      cases second with
      | nil => exact ⟨rfl, (List.cons.inj same).2⟩
      | cons value values =>
          rcases starts value with ⟨c, rest, written, other⟩
          simp only [List.flatMap_nil, List.flatMap_cons, written, List.nil_append,
            List.cons_append] at same
          exact absurd (List.head_eq_of_cons_eq same).symm other
  | cons value values ih =>
      cases second with
      | nil =>
          rcases starts value with ⟨c, rest, written, other⟩
          simp only [List.flatMap_nil, List.flatMap_cons, written, List.nil_append,
            List.cons_append] at same
          exact absurd (List.head_eq_of_cons_eq same) other
      | cons value' values' =>
          simp only [List.flatMap_cons, List.append_assoc] at same
          rcases legible same with ⟨rfl, later⟩
          rcases ih (by simpa using later) with ⟨rfl, after⟩
          exact ⟨rfl, after⟩

theorem intercalate_cons (separator first : List Char) (rest : List (List Char)) :
    separator.intercalate (first :: rest) = first ++ rest.flatMap (separator ++ ·) := by
  induction rest generalizing first with
  | nil => simp
  | cons second rest ih => simp [List.intercalate_cons_cons, ih]

/-- Values with commas between them are told apart, up to a mark that is no comma and that none of
them begins with. An empty side shows its mark where the other one has a value. -/
theorem IsLegible.separated (legible : IsLegible write) (stop : Char) (noComma : ',' ≠ stop)
    (starts : ∀ value, ∃ first rest, write value = first :: rest ∧ first ≠ stop) :
    IsLegible fun values : List α => ", ".toList.intercalate (values.map write) ++ [stop] := by
  have after : IsLegible fun value => ',' :: ' ' :: write value := by
    intro first second left right same
    exact legible (by simpa using same)
  have rest := after.flatMap stop fun value => ⟨_, _, rfl, noComma⟩
  intro first second left right same
  cases first with
  | nil =>
      cases second with
      | nil => exact ⟨rfl, (List.cons.inj same).2⟩
      | cons value values =>
          rcases starts value with ⟨c, rest, written, other⟩
          simp only [List.map_cons, intercalate_cons, written, List.cons_append] at same
          exact absurd (List.head_eq_of_cons_eq same).symm other
  | cons value values =>
      cases second with
      | nil =>
          rcases starts value with ⟨c, rest, written, other⟩
          simp only [List.map_cons, intercalate_cons, written, List.cons_append] at same
          exact absurd (List.head_eq_of_cons_eq same) other
      | cons value' values' =>
          simp only [List.map_cons, intercalate_cons, List.append_assoc, List.flatMap_map] at same
          rcases legible same with ⟨rfl, later⟩
          rcases rest (by simpa using later) with ⟨rfl, after⟩
          exact ⟨rfl, after⟩

theorem isLegible_quoted : IsLegible fun text : String => (quoted text).toList := by
  intro first second left right same
  have inside := isLegible_quotedChar.flatMap '"' quotedChar_eq_cons
  simp only [quoted, String.toList_ofList, List.cons_append, List.cons.injEq, true_and] at same
  rcases inside same with ⟨chars, rest⟩
  exact ⟨String.toList_injective chars, rest⟩

theorem quoted_eq_cons (text : String) : ∃ rest, (quoted text).toList = '"' :: rest :=
  ⟨_, String.toList_ofList⟩

theorem isLegible_quotedList : IsLegible fun items : List String => (quotedList items).toList := by
  intro first second left right same
  have inside := isLegible_quoted.separated ']' (by decide) fun text =>
    (quoted_eq_cons text).elim fun rest written => ⟨_, rest, written, by decide⟩
  refine inside ?_
  simpa [quotedList, bracketed, String.toList_intercalate, Function.comp_def] using same

theorem isLegible_quotedMap :
    IsLegible fun entries : Table String => (quotedMap entries).toList := by
  have entry : IsLegible fun entry : String × String =>
      (quoted entry.1 ++ ": " ++ quoted entry.2).toList := by
    intro first second left right same
    simp only [String.toList_append, List.append_assoc] at same
    rcases isLegible_quoted same with ⟨names, later⟩
    rcases isLegible_quoted (List.append_cancel_left later) with ⟨values, rest⟩
    exact ⟨Prod.ext names values, rest⟩
  have inside := entry.separated '\x7d' (by decide) fun entry => by
    rcases quoted_eq_cons entry.1 with ⟨rest, written⟩
    simp [written]
  intro first second left right same
  refine inside ?_
  simpa [quotedMap, String.toList_intercalate, Function.comp_def] using same

theorem IsLegible.option {display : α → String}
    (legible : IsLegible fun value => (display value).toList) :
    IsLegible fun value : Option α => (optionText (value.map display)).toList := by
  intro first second left right same
  cases first <;> cases second <;>
    simp only [optionText, Option.map_none, Option.map_some, String.toList_append,
      List.append_assoc] at same
  case none.none => exact ⟨rfl, List.append_cancel_left same⟩
  case none.some => exact absurd (List.head_eq_of_cons_eq same) (by decide)
  case some.none => exact absurd (List.head_eq_of_cons_eq same) (by decide)
  case some.some =>
      rcases legible (List.append_cancel_left same) with ⟨rfl, later⟩
      exact ⟨rfl, List.append_cancel_left later⟩

theorem toList_recordText (name : String) (field : String × String)
    (rest : List (String × String)) :
    (recordText name (field :: rest)).toList =
      (name ++ " \x7b " ++ field.1 ++ ": ").toList ++ (field.2.toList ++
        (rest.flatMap (fun field => (", " ++ field.1 ++ ": ").toList ++ field.2.toList) ++
          " \x7d".toList)) := by
  simp [recordText, String.toList_intercalate, intercalate_cons, List.flatMap_map]

/-- What stands after one and the same mark is told apart as well. -/
theorem IsLegible.after (legible : IsLegible write) {mark : List Char} {first second : α}
    {left right : List Char}
    (same : mark ++ (write first ++ left) = mark ++ (write second ++ right)) :
    first = second ∧ left = right :=
  legible (List.append_cancel_left same)

end VolumeAttacher.Text
