/-!
# Rounding quotients

The one rounding rule of this library: to the nearest whole number, a half to the even neighbour.
-/

namespace VolumeAttacher

/-- The whole number nearest to `num / den`; of two equally near ones the even one. -/
def roundQuotient (num den : Nat) : Nat :=
  let floor := num / den
  let twice := 2 * (num % den)
  if twice < den then floor
  else if den < twice then floor + 1
  else if floor % 2 = 0 then floor
  else floor + 1

/-- Rounding moves a quotient by at most one half. -/
theorem roundQuotient_near {num den : Nat} (positive : 0 < den) :
    2 * num ≤ den * (2 * roundQuotient num den + 1) ∧
      den * (2 * roundQuotient num den) ≤ 2 * num + den := by
  have division := Nat.div_add_mod num den
  have small := Nat.mod_lt num positive
  simp only [roundQuotient]
  generalize hq : num / den = q at *
  generalize hr : num % den = r at *
  have expand : den * (2 * (q + 1) + 1) = 2 * (den * q) + 3 * den := by
    simp only [Nat.mul_add, Nat.mul_left_comm den 2 q]; omega
  have expand' : den * (2 * q + 1) = 2 * (den * q) + den := by
    simp only [Nat.mul_add, Nat.mul_left_comm den 2 q]; omega
  have expand'' : den * (2 * (q + 1)) = 2 * (den * q) + 2 * den := by
    simp only [Nat.mul_add, Nat.mul_left_comm den 2 q]; omega
  have expand''' : den * (2 * q) = 2 * (den * q) := Nat.mul_left_comm den 2 q
  split
  · omega
  · split
    · omega
    · split <;> omega

end VolumeAttacher
