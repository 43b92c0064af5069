import Mathlib.Tactic.Ring
import Mathlib.Tactic.GCongr
import VolumeAttacher.Time.DoublePrecision

/-!
# Durations of at most 53 bits are exact

A quotient of whole numbers of at most 53 bits has the same whole part after it has been rounded to
double precision: the numbers of double precision near it are closer together than it is to the next
whole number. So a duration below 104 days is the same before and after its computation in double
precision.
-/

namespace VolumeAttacher

namespace Dyadic

/-- The whole part of a number that is written with a negative exponent. -/
theorem whole_of_places (significand places : Nat) :
    (quotient ⟨significand, -places⟩).1 / (quotient ⟨significand, -places⟩).2 =
      significand / 2 ^ places := by
  unfold quotient scaledQuotient
  split
  next isWhole =>
      have noPlaces : places = 0 := by
        dsimp only at isWhole
        omega
      simp [noPlaces]
  next => simp

/-- A significand that has been rounded up to the next power of two is written with one place less.
-/
theorem whole_of_carry (bits places : Nat) :
    (quotient ⟨2 ^ bits, -places + 1⟩).1 / (quotient ⟨2 ^ bits, -places + 1⟩).2 =
      2 ^ (bits + 1) / 2 ^ places := by
  cases places with
  | zero => simp [quotient, scaledQuotient, Nat.pow_succ]
  | succ places =>
      have same : (-((places + 1 : Nat) : Int) + 1) = -places := by omega
      rw [same, whole_of_places, Nat.pow_succ, Nat.pow_succ]
      exact (Nat.mul_div_mul_right _ _ (by decide)).symm

end Dyadic

namespace BinaryFormat

/-- Rounding to a number of binary places that tell a quotient from the next whole number keeps its
whole part. -/
theorem roundQuotient_div_two_pow {num den places : Nat} (positive : 0 < den)
    (fine : den < 2 ^ (places + 1)) :
    roundQuotient (num * 2 ^ places) den / 2 ^ places = num / den := by
  rcases @roundQuotient_near (num * 2 ^ places) den positive with ⟨above, below⟩
  generalize roundQuotient (num * 2 ^ places) den = rounded at above below
  rw [Nat.pow_succ] at fine
  generalize 2 ^ places = grid at above below fine
  have atLeast : den * (num / den) ≤ num := Nat.mul_div_le num den
  have lessThan : num + 1 ≤ den * (num / den + 1) := Nat.lt_mul_div_succ num positive
  generalize num / den = whole at atLeast lessThan
  refine Nat.div_eq_of_lt_le ?_ ?_
  · have scaled : den * (2 * (whole * grid)) ≤ den * (2 * rounded + 1) :=
      calc den * (2 * (whole * grid)) = 2 * (den * whole * grid) := by ring
        _ ≤ 2 * (num * grid) := by gcongr
        _ ≤ den * (2 * rounded + 1) := above
    have := Nat.le_of_mul_le_mul_left scaled positive
    omega
  · have scaled : den * (2 * rounded) < den * (2 * ((whole + 1) * grid)) :=
      calc den * (2 * rounded) ≤ 2 * (num * grid) + den := below
        _ < 2 * (num * grid) + grid * 2 := by omega
        _ = 2 * ((num + 1) * grid) := by ring
        _ ≤ 2 * (den * (whole + 1) * grid) := by gcongr
        _ = den * (2 * ((whole + 1) * grid)) := by ring
    have := Nat.lt_of_mul_lt_mul_left scaled
    omega

theorem floorLog2_le (num den : Nat) :
    floorLog2 num den ≤ (Nat.log2 num : Int) - Nat.log2 den := by
  unfold floorLog2
  dsimp only
  split <;> omega

theorem le_floorLog2 (num den : Nat) :
    (Nat.log2 num : Int) - Nat.log2 den - 1 ≤ floorLog2 num den := by
  unfold floorLog2
  dsimp only
  split <;> omega

/-- A quotient of numbers of at most 53 bits is rounded to so many places that each number of its
denominator's size is told from the next. -/
theorem exists_places {num den : Nat} (small : num < 2 ^ 53) (denSmall : den < 2 ^ 53) :
    ∃ places : Nat, max (-1074) (floorLog2 num den + 1 - 53) = -(places : Int) ∧
      Nat.log2 den ≤ places := by
  have bits : Nat.log2 num < 53 := by
    rcases Nat.eq_zero_or_pos num with rfl | nonzero
    · decide
    · exact (Nat.log2_lt (Nat.ne_of_gt nonzero)).mpr small
  have denBits : Nat.log2 den < 53 := by
    rcases Nat.eq_zero_or_pos den with rfl | nonzero
    · decide
    · exact (Nat.log2_lt (Nat.ne_of_gt nonzero)).mpr denSmall
  have atMost := floorLog2_le num den
  have atLeast := le_floorLog2 num den
  refine ⟨(52 - floorLog2 num den).toNat, ?_, ?_⟩
  · omega
  · omega

theorem nearestWhole_eq_div {num den : Nat} (small : num < 2 ^ 53) (positive : 0 < den)
    (denSmall : den < 2 ^ 53) : double.nearestWhole num den = num / den := by
  rcases exists_places small denSmall with ⟨places, exponent, enough⟩
  have fine : den < 2 ^ (places + 1) :=
    Nat.lt_of_lt_of_le Nat.lt_log2_self (Nat.pow_le_pow_right (by decide) (by omega))
  have scaled : (if 0 ≤ -(places : Int) then roundQuotient num (den * 2 ^ (-(places : Int)).toNat)
      else roundQuotient (num * 2 ^ (-(-(places : Int))).toNat) den) =
        roundQuotient (num * 2 ^ places) den := by
    split
    next isWhole =>
        have noPlaces : places = 0 := by omega
        simp [noPlaces]
    next => simp
  have rounded : roundQuotient (num * 2 ^ places) den / 2 ^ places = num / den :=
    roundQuotient_div_two_pow positive fine
  simp only [nearestWhole, round?, double, exponent, Nat.pow_eq, Nat.cast_ofNat, scaled]
  generalize roundQuotient (num * 2 ^ places) den = significand at rounded
  by_cases carried : significand = 2 ^ 53
  · subst carried
    simp only [if_true]
    rw [if_neg (by omega)]
    exact (Dyadic.whole_of_carry 52 places).trans rounded
  · simp only [if_neg carried]
    rw [if_neg (by omega)]
    exact (Dyadic.whole_of_places significand places).trans rounded

end BinaryFormat

namespace Duration

theorem nearestDouble_of_small {n : Nat} (small : n < 2 ^ 53) : nearestDouble n = n := by
  rw [nearestDouble, BinaryFormat.nearestWhole_eq_div small (by decide) (by decide), Nat.div_one]

theorem inDouble_of_small {d : Nat} (small : d < 2 ^ 53) : inDouble d = d := by
  have fewer : d / second ≤ d := Nat.div_le_self d second
  have whole : d / second * second ≤ d := Nat.div_mul_le_self d second
  have seconds : nearestDouble (d / second) = d / second := nearestDouble_of_small (by omega)
  have product : nearestDouble (d / second * second) = d / second * second :=
    nearestDouble_of_small (by omega)
  rw [inDouble, wholeSeconds, seconds, product, Nat.div_add_mod', nearestDouble_of_small small]

theorem ofDouble_of_small {n : Nat} (small : n < 2 ^ 53) : ofDouble n = n := by
  have seconds : BinaryFormat.double.nearestWhole n second = n / second :=
    BinaryFormat.nearestWhole_eq_div small (by decide) (by decide)
  have uncut : min n 0xFFFFFFFFFFFFFFFF = n := by omega
  rw [ofDouble, ofSeconds, seconds, uncut]
  exact Nat.div_add_mod' n second

end Duration

end VolumeAttacher
