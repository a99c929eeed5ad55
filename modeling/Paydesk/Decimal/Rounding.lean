/-
**Rounding a quotient of natural numbers.**

A quotient `num / den` lies between two whole numbers; the nearer one is taken, and an exact half
goes up (`quotientHalfUp`) or to the even neighbour (`quotientHalfEven`).

* `quotientHalfUp_le`: dividing by two or more never gives more than the numerator;
* `quotientHalfUp_exact`, `quotientHalfEven_exact`: a quotient that comes out even is kept.
-/

namespace Paydesk

/-- The whole number nearest to a quotient; a half goes up. -/
def quotientHalfUp (num den : Nat) : Nat := (2 * num + den) / (2 * den)

/-- The whole number nearest to a quotient; a half goes to the even neighbour. -/
def quotientHalfEven (num den : Nat) : Nat :=
  let quotient := num / den
  let remainder := num % den
  if 2 * remainder < den then quotient
  else if den < 2 * remainder then quotient + 1
  else quotient + quotient % 2

theorem quotientHalfUp_le (num : Nat) {den : Nat} (large : 2 ≤ den) :
    quotientHalfUp num den ≤ num := by
  unfold quotientHalfUp
  rcases Nat.eq_zero_or_pos num with zero | positive
  · subst zero
    have none : (2 * 0 + den) / (2 * den) = 0 := Nat.div_eq_of_lt (by omega)
    omega
  · refine Nat.div_le_of_le_mul ?_
    have product : den * 2 ≤ den * (2 * num) := Nat.mul_le_mul_left den (by omega)
    have doubled : 2 * (2 * num) ≤ den * (2 * num) := Nat.mul_le_mul_right _ large
    have sum : 2 * den * num = den * (2 * num) := by
      rw [Nat.mul_comm 2 den, Nat.mul_assoc]
    rw [sum]
    omega

theorem quotientHalfUp_exact (num : Nat) {den : Nat} (positive : 0 < den) :
    quotientHalfUp (num * den) den = num := by
  unfold quotientHalfUp
  have split : 2 * (num * den) + den = den + num * (2 * den) := by
    rw [← Nat.mul_assoc, Nat.mul_comm 2 num, Nat.mul_assoc, Nat.add_comm]
  rw [split, Nat.add_mul_div_right _ _ (by omega), Nat.div_eq_of_lt (by omega), Nat.zero_add]

theorem quotientHalfEven_exact (num : Nat) {den : Nat} (positive : 0 < den) :
    quotientHalfEven (num * den) den = num := by
  simp [quotientHalfEven, Nat.mul_div_cancel _ positive, positive]

end Paydesk
