import VolumeAttacher.Csi.LogLine
import VolumeAttacher.Proofs.Text.Legible

/-!
# What a log line tells

The text of a request is legible: it determines the request. Striking out the secrets comes before
the text and before the cut, and it keeps the names of the secrets. Hence two requests have the same
log lines exactly if they differ at most in the values of secrets.
-/

namespace VolumeAttacher.Csi

open Text (IsLegible)

/-- A line shows a text under a limit: the whole text if it is short enough, otherwise as many of
its characters as the limit allows, with the number of the dropped ones. -/
inductive IsShown : Option Nat → String → String → Prop where
  | unlimited (text : String) : IsShown none text text
  | whole {limit : Nat} {text : String} (fits : text.length ≤ limit) :
      IsShown (some limit) text text
  | cut {limit : Nat} {kept dropped : String} (filled : kept.length = limit)
      (missing : dropped ≠ "") :
      IsShown (some limit) (kept ++ dropped)
        (kept ++ s!"[...{dropped.length} characters truncated]")

theorem isShown_truncated (limit : Nat) (text : String) :
    IsShown (some limit) text (truncated limit text) := by
  unfold truncated
  split
  case isTrue fits => exact .whole fits
  case isFalse long =>
      let kept := String.ofList (text.toList.take limit)
      let dropped := String.ofList (text.toList.drop limit)
      have parts : kept ++ dropped = text := by
        rw [← String.ofList_append, List.take_append_drop, String.ofList_toList]
      have filled : kept.length = limit := by
        rw [String.length_ofList, List.length_take, String.length_toList]
        omega
      have rest : dropped.length = text.length - limit := by
        rw [String.length_ofList, List.length_drop, String.length_toList]
      have missing : dropped ≠ "" := by
        intro none
        rw [none, String.length_empty] at rest
        omega
      have shown : IsShown (some limit) (kept ++ dropped) _ := .cut filled missing
      rw [parts, rest] at shown
      exact shown

theorem isShown_logLine {α : Type} [Loggable α] (limit : Option Nat) (message : α) :
    IsShown limit (Loggable.text (Loggable.masked message)) (logLine limit message) := by
  cases limit with
  | none => exact .unlimited _
  | some limit => exact isShown_truncated limit _

theorem logLine_eq_iff {α : Type} [Loggable α]
    (injective : Function.Injective (Loggable.text : α → String)) (first second : α) :
    (∀ limit, logLine limit first = logLine limit second) ↔
      Loggable.masked first = Loggable.masked second := by
  constructor
  · intro same
    exact injective (same none)
  · intro same limit
    unfold logLine
    rw [same]

namespace LogText

theorem isLegible_bool : IsLegible fun value => (bool value).toList := by
  intro first second left right same
  cases first <;> cases second <;> simp_all [bool]

theorem mem_number {value : Int} {c : Char} (mem : c ∈ (toString value).toList) :
    c.isDigit ∨ c = '-' := by
  have digits {n : Nat} (mem : c ∈ n.repr.toList) : c.isDigit :=
    n.isDigit_of_mem_toDigits (b := 10) (by decide) (by decide) (by simpa using mem)
  rw [Int.toString_eq_repr, Int.repr_eq_if] at mem
  split at mem
  · exact .inl (digits mem)
  · rw [String.toList_append, List.mem_append] at mem
    rcases mem with sign | mem
    · exact .inr (by simpa using sign)
    · exact .inl (digits mem)

/-- Different names without a blank, and none of them is a number. -/
structure AreNames (names : List String) : Prop where
  distinct : names.Nodup
  words : ∀ name ∈ names, ∃ c ∈ name.toList, ¬(c.isDigit ∨ c = '-')
  unbroken : ∀ name ∈ names, ' ' ∉ name.toList

theorem areNames_accessModeNames : AreNames accessModeNames where
  distinct := by simp [accessModeNames]
  words := by simp [accessModeNames]
  unbroken := by simp [accessModeNames]

/-- A value is shown by its name in the enumeration if it has one, else as a number. -/
theorem named_cases (names : List String) (n : Int32) :
    named names n = toString n.toInt ∨
      ∃ i : Nat, n.toInt = i ∧ names[i]? = some (named names n) := by
  simp only [named]
  split_ifs with natural
  · cases found : names[n.toInt.toNat]? with
    | none => exact .inl rfl
    | some name => exact .inr ⟨n.toInt.toNat, by omega, found⟩
  · exact .inl rfl

namespace AreNames

variable {names : List String} (areNames : AreNames names)
include areNames

theorem ne_number {name : String} (mem : name ∈ names) (value : Int) : name ≠ toString value := by
  rintro rfl
  rcases areNames.words _ mem with ⟨c, mem, letter⟩
  exact letter (mem_number mem)

theorem named_injective : Function.Injective (named names) := by
  intro m n same
  refine Int32.toInt_inj.mp ?_
  rcases named_cases names m with number | ⟨i, isIndex, name⟩ <;>
    rcases named_cases names n with number' | ⟨j, isIndex', name'⟩
  · rwa [number, number', Int.toString_eq_repr, Int.toString_eq_repr, Int.repr_inj] at same
  · exact absurd (same.symm.trans number) (areNames.ne_number (List.mem_of_getElem? name') _)
  · exact absurd (same.trans number') (areNames.ne_number (List.mem_of_getElem? name) _)
  · rcases List.getElem?_eq_some_iff.mp name with ⟨bound, -⟩
    have index : i = j :=
      (List.getElem?_inj bound areNames.distinct).mp (by rw [name, name', same])
    rw [isIndex, isIndex', index]

theorem unbroken_named (n : Int32) : ' ' ∉ (named names n).toList := by
  rcases named_cases names n with number | ⟨i, -, name⟩
  · rw [number]
    intro mem
    exact absurd (mem_number mem) (by decide)
  · exact areNames.unbroken _ (List.mem_of_getElem? name)

/-- A named value is told apart if a blank follows. -/
theorem isLegible_ended : IsLegible fun n => (named names n).toList ++ [' '] := by
  refine Text.isLegible_ended ?_ areNames.unbroken_named
  intro m n same
  exact areNames.named_injective (String.toList_injective same)

end AreNames

theorem isLegible_accessMode : IsLegible fun mode => (accessMode mode).toList := by
  have ended := areNames_accessModeNames.isLegible_ended
  intro first second left right same
  simp only [accessMode, Text.toList_recordText, List.append_assoc, List.flatMap_nil,
    List.nil_append] at same
  rcases @ended _ _ ('\x7d' :: left) ('\x7d' :: right) (by simpa using same) with ⟨modes, same⟩
  exact ⟨congrArg AccessModeMessage.mk modes, List.tail_eq_of_cons_eq same⟩

theorem isLegible_accessType : IsLegible fun type => (accessType type).toList := by
  intro first second left right same
  cases first with
  | block =>
      cases second with
      | block => exact ⟨rfl, List.append_cancel_left same⟩
      | mount => exact absurd same (by simp [accessType])
  | mount mount =>
      cases second with
      | block => exact absurd same (by simp [accessType])
      | mount mount' =>
          simp only [accessType, String.toList_append] at same
          simp only [Text.toList_recordText, List.append_assoc, List.flatMap_cons, List.flatMap_nil,
            List.nil_append] at same
          have same := List.append_cancel_left same
          rcases Text.isLegible_quoted.after same with ⟨types, same⟩
          rcases Text.isLegible_quotedList.after same with ⟨flags, same⟩
          have rest := List.append_cancel_left same
          refine ⟨?_, List.append_cancel_left rest⟩
          cases mount
          cases mount'
          simp_all

theorem isLegible_volumeCapability :
    IsLegible fun capability => (volumeCapability capability).toList := by
  intro first second left right same
  simp only [volumeCapability, Text.toList_recordText, List.append_assoc, List.flatMap_cons,
    List.flatMap_nil, List.nil_append] at same
  rcases isLegible_accessMode.option.after same with ⟨modes, same⟩
  rcases isLegible_accessType.option.after same with ⟨types, same⟩
  refine ⟨?_, List.append_cancel_left same⟩
  cases first
  cases second
  simp_all

end LogText

theorem PublishRequest.text_injective :
    Function.Injective (Loggable.text : PublishRequest → String) := by
  intro first second same
  have same := congrArg String.toList same
  simp only [Loggable.text, Text.toList_recordText, List.append_assoc, List.flatMap_cons,
    List.flatMap_nil, List.nil_append] at same
  rcases Text.isLegible_quoted.after same with ⟨volumes, same⟩
  rcases Text.isLegible_quoted.after same with ⟨nodes, same⟩
  rcases LogText.isLegible_volumeCapability.option.after same with ⟨capabilities, same⟩
  rcases LogText.isLegible_bool.after same with ⟨readonly, same⟩
  rcases Text.isLegible_quotedMap.after same with ⟨secrets, same⟩
  rcases Text.isLegible_quotedMap.after same with ⟨contexts, -⟩
  cases first
  cases second
  simp_all

theorem UnpublishRequest.text_injective :
    Function.Injective (Loggable.text : UnpublishRequest → String) := by
  intro first second same
  have same := congrArg String.toList same
  simp only [Loggable.text, Text.toList_recordText, List.append_assoc, List.flatMap_cons,
    List.flatMap_nil, List.nil_append] at same
  rcases Text.isLegible_quoted.after same with ⟨volumes, same⟩
  rcases Text.isLegible_quoted.after same with ⟨nodes, same⟩
  rcases Text.isLegible_quotedMap.after same with ⟨secrets, -⟩
  cases first
  cases second
  simp_all

theorem strikeOut_eq_iff (first second : Table String) :
    strikeOut first = strikeOut second ↔ Table.names first = Table.names second := by
  have struck (table : Table String) :
      strikeOut table = (Table.names table).map fun name => (name, struckOut) := by
    simp [strikeOut, Table.mapValues, Table.names]
  rw [struck, struck]
  refine List.map_inj_right ?_
  intro name other same
  exact (Prod.mk.inj same).1

/-- The requests differ at most in the values of secrets: the names of the secrets, in their order,
and everything else is the same. -/
structure PublishRequest.AgreesButForSecrets (first second : PublishRequest) : Prop where
  names : Table.names first.secrets = Table.names second.secrets
  others : { first with secrets := [] } = { second with secrets := [] }

@[inherit_doc PublishRequest.AgreesButForSecrets]
structure UnpublishRequest.AgreesButForSecrets (first second : UnpublishRequest) : Prop where
  names : Table.names first.secrets = Table.names second.secrets
  others : { first with secrets := [] } = { second with secrets := [] }

theorem PublishRequest.masked_eq_iff (first second : PublishRequest) :
    Loggable.masked first = Loggable.masked second ↔ first.AgreesButForSecrets second := by
  constructor
  · intro same
    simp only [Loggable.masked, PublishRequest.mk.injEq, strikeOut_eq_iff] at same
    exact ⟨same.2.2.2.2.1, by simp [same]⟩
  · intro agrees
    rcases agrees with ⟨names, others⟩
    simp only [Loggable.masked, PublishRequest.mk.injEq, strikeOut_eq_iff] at others ⊢
    simp [names, others]

theorem UnpublishRequest.masked_eq_iff (first second : UnpublishRequest) :
    Loggable.masked first = Loggable.masked second ↔ first.AgreesButForSecrets second := by
  constructor
  · intro same
    simp only [Loggable.masked, UnpublishRequest.mk.injEq, strikeOut_eq_iff] at same
    exact ⟨same.2.2, by simp [same]⟩
  · intro agrees
    rcases agrees with ⟨names, others⟩
    simp only [Loggable.masked, UnpublishRequest.mk.injEq, strikeOut_eq_iff] at others ⊢
    simp [names, others]

/-- The log lines of two requests are the same, whatever the limit, exactly if the requests differ
at most in the values of secrets; and every line shows its message, with the secrets struck out,
under the limit. -/
theorem logLine_hidesSecrets :
    (∀ first second : PublishRequest, (∀ limit, logLine limit first = logLine limit second) ↔
      first.AgreesButForSecrets second) ∧
    (∀ first second : UnpublishRequest, (∀ limit, logLine limit first = logLine limit second) ↔
      first.AgreesButForSecrets second) ∧
    ∀ {α : Type} [Loggable α] (limit : Option Nat) (message : α),
      IsShown limit (Loggable.text (Loggable.masked message)) (logLine limit message) := by
  refine ⟨fun first second => ?_, fun first second => ?_, isShown_logLine⟩
  · rw [logLine_eq_iff PublishRequest.text_injective, PublishRequest.masked_eq_iff]
  · rw [logLine_eq_iff UnpublishRequest.text_injective, UnpublishRequest.masked_eq_iff]

end VolumeAttacher.Csi
