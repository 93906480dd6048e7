/-!
# Quotients and their rounding

`roundDiv` is the integer nearest to a quotient, and of two that are equally
near the even one.
-/

namespace PageClip.Decimal

/-- A fraction multiplied by a power of a base, as numerator and denominator. -/
def scale (base num den : Nat) (power : Int) : Nat × Nat :=
  if 0 ≤ power then (num * base.pow power.toNat, den) else (num, den * base.pow (-power).toNat)

/-- The integer nearest to `num / den`; a half goes to the even neighbour. -/
def roundDiv (num den : Nat) : Nat :=
  let below := num / den
  let twice := 2 * (num % den)
  if twice < den then below
  else if den < twice then below + 1
  else if below % 2 = 0 then below
  else below + 1

theorem two_mul_roundDiv_le {num den : Nat} (positive : 0 < den) :
    2 * (roundDiv num den * den) ≤ 2 * num + den := by
  have whole := Nat.div_add_mod num den
  have small := Nat.mod_lt num positive
  have next : (num / den + 1) * den = den * (num / den) + den := by
    rw [Nat.add_mul, Nat.one_mul, Nat.mul_comm]
  have same : num / den * den = den * (num / den) := Nat.mul_comm _ _
  simp only [roundDiv]
  repeat' split
  all_goals simp only [next, same]; omega

theorem le_two_mul_roundDiv {num den : Nat} (positive : 0 < den) :
    2 * num ≤ 2 * (roundDiv num den * den) + den := by
  have whole := Nat.div_add_mod num den
  have small := Nat.mod_lt num positive
  have next : (num / den + 1) * den = den * (num / den) + den := by
    rw [Nat.add_mul, Nat.one_mul, Nat.mul_comm]
  have same : num / den * den = den * (num / den) := Nat.mul_comm _ _
  simp only [roundDiv]
  repeat' split
  all_goals simp only [next, same]; omega

end PageClip.Decimal
