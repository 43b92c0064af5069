import Mathlib.Data.List.Infix
import VolumeAttacher.Csi.Address

/-!
# Addresses and the texts that write them

Which texts write which address, apart from how they are read. A text is read as the address that it
writes, and refused with an error that names it if it writes none. Several texts write one address,
and the text that an address is shown as is one of them. No two addresses are shown as the same
text: the scheme in front tells a path from a host.
-/

namespace VolumeAttacher

theorem Text.after?_eq_some_iff {beginning text rest : List Char} :
    Text.after? beginning text = some rest ↔ text = beginning ++ rest := by
  unfold Text.after?
  split
  case isTrue begins =>
      rcases List.isPrefixOf_iff_prefix.mp begins with ⟨rest', rfl⟩
      simp [eq_comm]
  case isFalse other =>
      refine iff_of_false nofun ?_
      rintro rfl
      exact other (List.isPrefixOf_iff_prefix.mpr (List.prefix_append _ _))

namespace Csi.Address

variable {address : Address} {text : String}

/-- A host is dialled with a port, and has no scheme in it. -/
def IsHost (host : String) : Prop :=
  ':' ∈ host.toList ∧ ¬ "://".toList <:+: host.toList

/-- The texts that write an address. -/
inductive Writes : Address → String → Prop where
  | unixScheme {path : String} (nonempty : path ≠ "") : Writes (.unix path) ("unix://" ++ path)
  | path {path : String} (slash : path.toList.head? = some '/') : Writes (.unix path) path
  | tcpScheme {host : String} (isHost : IsHost host) : Writes (.tcp host) ("tcp://" ++ host)
  /-- A text that begins with a slash is a path, even if it could be a host. -/
  | host {host : String} (isHost : IsHost host) (noPath : host.toList.head? ≠ some '/') :
      Writes (.tcp host) host

theorem hasScheme_iff (host : List Char) : hasScheme host ↔ "://".toList <:+: host := by
  induction host with
  | nil => decide
  | cons c rest ih =>
      rw [hasScheme, Bool.or_eq_true, List.isPrefixOf_iff_prefix, ih, List.infix_cons_iff]

theorem isHost_iff (host : String) :
    IsHost host ↔ ¬ (host.toList = [] ∨ hasScheme host.toList ∨ ':' ∉ host.toList) := by
  have filled : ':' ∈ host.toList → host.toList ≠ [] := List.ne_nil_of_mem
  rw [IsHost, hasScheme_iff]
  tauto

/-- No host begins with a scheme. -/
theorem IsHost.after?_eq_none {host : String} (isHost : IsHost host) (scheme : List Char) :
    Text.after? (scheme ++ "://".toList) host.toList = none := by
  refine Option.eq_none_iff_forall_not_mem.mpr fun rest begins => isHost.2 ?_
  exact ⟨scheme, rest, (Text.after?_eq_some_iff.mp begins).symm⟩

theorem eq_append_ofList {scheme : String} {rest : List Char}
    (begins : Text.after? scheme.toList text.toList = some rest) :
    text = scheme ++ String.ofList rest := by
  apply String.toList_injective
  rw [String.toList_append, String.toList_ofList]
  exact Text.after?_eq_some_iff.mp begins

theorem after?_scheme (scheme rest : String) :
    Text.after? scheme.toList (scheme ++ rest).toList = some rest.toList :=
  Text.after?_eq_some_iff.mpr String.toList_append

theorem writes_of_ofChars? (read : ofChars? text.toList = some address) : Writes address text := by
  unfold ofChars? at read
  split at read
  case h_1 path begins =>
      have written : text = "unix://" ++ String.ofList path := eq_append_ofList begins
      split at read
      · contradiction
      next nonempty =>
          rcases Option.some.inj read with rfl
          exact written ▸ .unixScheme (by simpa using nonempty)
  case h_2 noUnix =>
      split at read
      next slash =>
          rcases Option.some.inj read with rfl
          simpa using Writes.path slash
      next noPath =>
          cases begins : Text.after? tcpScheme text.toList with
          | none =>
              simp only [begins, Option.getD_none] at read
              split at read
              · contradiction
              next proper =>
                  rcases Option.some.inj read with rfl
                  simpa using Writes.host ((isHost_iff text).mpr proper) noPath
          | some host =>
              have written : text = "tcp://" ++ String.ofList host := eq_append_ofList begins
              simp only [begins, Option.getD_some] at read
              split at read
              · contradiction
              next proper =>
                  rcases Option.some.inj read with rfl
                  exact written ▸ .tcpScheme ((isHost_iff _).mpr (by simpa using proper))

theorem ofChars?_of_writes (writes : Writes address text) :
    ofChars? text.toList = some address := by
  unfold ofChars?
  cases writes with
  | @unixScheme path nonempty =>
      have begins : Text.after? unixScheme ("unix://" ++ path).toList = some path.toList :=
        after?_scheme "unix://" path
      simp only [begins]
      rw [if_neg (by simpa using nonempty), String.ofList_toList]
  | path slash =>
      have noUnix : Text.after? unixScheme text.toList = none := by
        refine Option.eq_none_iff_forall_not_mem.mpr fun rest begins => ?_
        rw [Text.after?_eq_some_iff.mp begins] at slash
        exact absurd (Option.some.inj slash : 'u' = '/') (by decide)
      simp only [noUnix]
      rw [if_pos slash, String.ofList_toList]
  | @tcpScheme host isHost =>
      have noUnix : Text.after? unixScheme ("tcp://" ++ host).toList = none := by
        rw [String.toList_append]
        rfl
      have noPath : ("tcp://" ++ host).toList.head? ≠ some '/' := by
        rw [String.toList_append]
        exact nofun
      have begins : Text.after? Address.tcpScheme ("tcp://" ++ host).toList = some host.toList :=
        after?_scheme "tcp://" host
      simp only [noUnix, begins, Option.getD_some]
      rw [if_neg noPath, if_neg ((isHost_iff host).mp isHost), String.ofList_toList]
  | host isHost noPath =>
      have noUnix : Text.after? unixScheme text.toList = none := isHost.after?_eq_none "unix".toList
      have noTcp : Text.after? Address.tcpScheme text.toList = none :=
        isHost.after?_eq_none "tcp".toList
      simp only [noUnix, noTcp, Option.getD_none]
      rw [if_neg noPath, if_neg ((isHost_iff text).mp isHost), String.ofList_toList]

theorem ofText_eq_ok_iff : ofText text = .ok address ↔ Writes address text := by
  refine ⟨fun read => writes_of_ofChars? ?_, fun writes => ?_⟩
  · unfold ofText at read
    split at read
    · next found => exact found.trans (congrArg some (Except.ok.inj read))
    · contradiction
  · simp only [ofText, ofChars?_of_writes writes]

/-- What an address is shown as is one of the texts that write it. -/
theorem Writes.canonical (writes : Writes address text) : Writes address address.text := by
  cases writes with
  | unixScheme nonempty => exact .unixScheme nonempty
  | path slash =>
      refine .unixScheme ?_
      rintro rfl
      contradiction
  | tcpScheme isHost => exact .tcpScheme isHost
  | host isHost => exact .tcpScheme isHost

theorem text_injective : Function.Injective Address.text := by
  intro address other same
  have shown := congrArg String.toList same
  cases address <;> cases other <;>
    simp only [Address.text, String.toList_append, List.append_cancel_left_eq] at shown
  case unix.unix => rw [String.toList_injective shown]
  case tcp.tcp => rw [String.toList_injective shown]
  case unix.tcp => exact absurd (List.head_eq_of_cons_eq shown) (by decide)
  case tcp.unix => exact absurd (List.head_eq_of_cons_eq shown) (by decide)

/-- Every text is read as the one address that it writes, or refused by its own name. What an
address that has been read is shown as is read as this address again, and no other address is shown
like it. -/
theorem ofText_isCanonical (text : String) :
    (∃ address, Writes address text ∧ ofText text = .ok address ∧
      ofText address.text = .ok address ∧
      (ofText address.text).map Address.text = .ok address.text ∧
      ∀ otherText other, ofText otherText = .ok other → other.text = address.text →
        other = address) ∨
    (∀ address, ¬ Writes address text) ∧ ofText text = .error (.invalidAddress text) := by
  cases read : ofChars? text.toList with
  | none =>
      right
      refine ⟨fun address writes => ?_, by simp only [ofText, read]⟩
      exact nomatch read.symm.trans (ofChars?_of_writes writes)
  | some address =>
      left
      have writes : Writes address text := writes_of_ofChars? read
      have again : ofText address.text = .ok address := ofText_eq_ok_iff.mpr writes.canonical
      refine ⟨address, writes, ofText_eq_ok_iff.mpr writes, again, ?_, ?_⟩
      · rw [again, Except.map]
      · intro otherText other _ same
        exact text_injective same

/-- A host may begin with a slash if the scheme stands in front of it, and is then told from the
path that is spelled like it. -/
theorem ofText_isCanonical_slashedHost :
    ofText "tcp:///srv:1" = .ok (.tcp "/srv:1") ∧ ofText "/srv:1" = .ok (.unix "/srv:1") ∧
      ofText (Address.tcp "/srv:1").text = .ok (.tcp "/srv:1") ∧
      (Address.unix "/srv:1").text ≠ (Address.tcp "/srv:1").text := by
  have host : ofText "tcp:///srv:1" = .ok (.tcp "/srv:1") := rfl
  have path : ofText "/srv:1" = .ok (.unix "/srv:1") := rfl
  rcases ofText_isCanonical "tcp:///srv:1" with ⟨address, -, read, again, -, only⟩ | ⟨-, refused⟩
  · rcases (Except.ok.inj (read.symm.trans host) : address = .tcp "/srv:1") with rfl
    exact ⟨host, path, again, fun same => nomatch only "/srv:1" _ path same⟩
  · exact nomatch refused.symm.trans host

end Csi.Address

end VolumeAttacher
