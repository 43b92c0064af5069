import Mathlib.Tactic.Ring
import VolumeAttacher.Wire.Field

/-!
# Numbers of at most ten bytes

A number is written in the fewest bytes, but it is read from longer ones as well: whatever has seven
bits to a byte, all bytes but the last saying that more follow, is a numeral, and is read if it has
ten bytes at most and its value fits 64 bits. Whatever comes behind is left.
-/

namespace VolumeAttacher.Wire

/-- Bytes that stand for a number, least significant group first. -/
inductive Numeral : Nat → List UInt8 → Prop
  | last {byte : UInt8} (ends : byte.toNat < 128) : Numeral byte.toNat [byte]
  | more {byte : UInt8} {high : Nat} {bytes : List UInt8} (goesOn : 128 ≤ byte.toNat)
      (numeral : Numeral high bytes) : Numeral (byte.toNat - 128 + 128 * high) (byte :: bytes)

/-- Bytes that a number of 64 bits can be read from. -/
structure IsNumber (value : Nat) (bytes : List UInt8) : Prop where
  numeral : Numeral value bytes
  short : bytes.length ≤ 10
  fits : value < 2 ^ 64

variable {value fuel room : Nat} {bytes : List UInt8}

theorem Numeral.ne_nil (numeral : Numeral value bytes) : bytes ≠ [] := by
  cases numeral <;> simp

/-- With every byte that has been read there is room for seven bits less, and the tenth byte has a
single bit left. -/
theorem Numeral.varintWithin?_append (numeral : Numeral value bytes) (rest : List UInt8)
    (short : bytes.length ≤ room) (atMost : room ≤ 10)
    (fits : value * 2 ^ (7 * (10 - room)) < 2 ^ 64) :
    varintWithin? room (bytes ++ rest) = some (value, rest) := by
  induction numeral generalizing room with
  | @last byte ends =>
      cases room with
      | zero => simp at short
      | succ room =>
          have isLast : byte < 128 := UInt8.lt_iff_toNat_lt.mpr ends
          have fitsLast : ¬(room = 0 ∧ 2 ≤ byte) := by
            rintro ⟨rfl, large⟩
            have large : 2 ≤ byte.toNat := UInt8.le_iff_toNat_le.mp large
            omega
          simp [varintWithin?, isLast, fitsLast]
  | @more byte high bytes goesOn _ ih =>
      cases room with
      | zero => simp at short
      | succ room =>
          have isMore : ¬byte < 128 := fun ends =>
            absurd (UInt8.lt_iff_toNat_lt.mp ends) (Nat.not_lt.mpr goesOn)
          have shift : 2 ^ (7 * (10 - room)) = 128 * 2 ^ (7 * (10 - (room + 1))) := by
            rw [show 7 * (10 - room) = 7 + 7 * (10 - (room + 1)) by omega, pow_add]
            rfl
          have fitsHigh : high * 2 ^ (7 * (10 - room)) < 2 ^ 64 :=
            calc high * 2 ^ (7 * (10 - room))
              _ = 128 * high * 2 ^ (7 * (10 - (room + 1))) := by rw [shift]; ring
              _ ≤ (byte.toNat - 128 + 128 * high) * 2 ^ (7 * (10 - (room + 1))) :=
                  Nat.mul_le_mul_right _ (Nat.le_add_left _ _)
              _ < 2 ^ 64 := fits
          have read : varintWithin? room (bytes ++ rest) = some (high, rest) :=
            ih (by simpa using short) (by omega) fitsHigh
          simp [varintWithin?, isMore, read]

theorem IsNumber.number_append (isNumber : IsNumber value bytes) (rest : List UInt8) :
    number (bytes ++ rest) = .ok (value, rest) := by
  have read : varint? (bytes ++ rest) = some (value, rest) :=
    isNumber.numeral.varintWithin?_append rest isNumber.short (Nat.le_refl 10)
      (by simpa using isNumber.fits)
  simp [number, read]

theorem numeral_singleton (small : value < 128) : Numeral value [UInt8.ofNat value] := by
  have byte : (UInt8.ofNat value).toNat = value := by
    simp
    omega
  have last : Numeral (UInt8.ofNat value).toNat [UInt8.ofNat value] := .last (by omega)
  rwa [byte] at last

theorem Numeral.cons (numeral : Numeral (value / 128) bytes) :
    Numeral value (UInt8.ofNat (128 + value % 128) :: bytes) := by
  have byte : (UInt8.ofNat (128 + value % 128)).toNat = 128 + value % 128 := by
    simp
    omega
  have more : Numeral _ (UInt8.ofNat (128 + value % 128) :: bytes) := .more (by omega) numeral
  rwa [byte, show 128 + value % 128 - 128 + 128 * (value / 128) = value by omega] at more

theorem numeral_varintBytes (fuel value : Nat) (fits : value < 128 ^ (fuel + 1)) :
    Numeral value (varintBytes (fuel + 1) value) ∧
      (varintBytes (fuel + 1) value).length ≤ fuel + 1 := by
  induction fuel generalizing value with
  | zero =>
      have small : value < 128 := by simpa using fits
      simpa [varintBytes, small] using numeral_singleton small
  | succ fuel ih =>
      rw [varintBytes]
      split
      next small => exact ⟨numeral_singleton small, by simp⟩
      next =>
          have fitsHigh : value / 128 < 128 ^ (fuel + 1) :=
            Nat.div_lt_of_lt_mul (by rwa [pow_succ, mul_comm] at fits)
          rcases ih (value / 128) fitsHigh with ⟨numeral, short⟩
          exact ⟨numeral.cons, by simpa using short⟩

theorem isNumber_varint (fits : value < 2 ^ 64) : IsNumber value (varint value) := by
  rcases numeral_varintBytes 9 value (fits.trans (by decide)) with ⟨numeral, short⟩
  exact ⟨numeral, short, fits⟩

end VolumeAttacher.Wire
