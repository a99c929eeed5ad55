/-
**The value of a decimal.**

Decimals that differ in their trailing zeros or in the sign of zero have one value. Each value has
one decimal without either.

* `sameValue_iff`, `SameValue.trans`: one value, by cross-multiplication;
* `sameValue_padTo`, `sameValue_round`, `sameValue_normal`: what keeps the value;
* `Decimal.normal`: the decimal without trailing zeros and without a sign on zero;
* `normal_eq_normal_iff`: **two decimals have one value where their normal forms are equal**;
* `Amount.normal_eq_normal_iff`: the same for amounts.
-/

import Mathlib.Tactic.Ring
import Paydesk.Amount

namespace Paydesk

namespace Decimal

variable {first second third : Decimal}

/-! ### One value -/

theorem sameValue_iff : first.sameValue second ↔
    first.signedCoefficient * 10 ^ second.scale = second.signedCoefficient * 10 ^ first.scale := by
  unfold sameValue order
  rw [beq_iff_eq, Std.LawfulEqCmp.compare_eq_iff_eq, Nat.pow_eq, Nat.pow_eq, Nat.cast_pow,
    Nat.cast_pow]
  rfl

theorem sameValue_refl (decimal : Decimal) : decimal.sameValue decimal := sameValue_iff.mpr rfl

theorem sameValue_symm (same : first.sameValue second) : second.sameValue first :=
  sameValue_iff.mpr (sameValue_iff.mp same).symm

theorem sameValue_trans (left : first.sameValue second) (right : second.sameValue third) :
    first.sameValue third := by
  rw [sameValue_iff] at left right ⊢
  have positive : (10 : Int) ^ second.scale ≠ 0 := pow_ne_zero _ (by decide)
  refine Int.eq_of_mul_eq_mul_right positive ?_
  calc first.signedCoefficient * 10 ^ third.scale * 10 ^ second.scale
      = first.signedCoefficient * 10 ^ second.scale * 10 ^ third.scale := by ring
    _ = second.signedCoefficient * 10 ^ third.scale * 10 ^ first.scale := by rw [left]; ring
    _ = third.signedCoefficient * 10 ^ first.scale * 10 ^ second.scale := by rw [right]; ring

/-- A decimal with more zeros at its end, and the sign it had. -/
theorem sameValue_of_shift (count : Nat) (sign : first.negative = second.negative)
    (digits : first.coefficient = second.coefficient * 10 ^ count)
    (places : first.scale = second.scale + count) : first.sameValue second := by
  rw [sameValue_iff]
  unfold signedCoefficient
  rw [sign, digits, places, pow_add]
  push_cast
  split <;> ring

theorem sameValue_pad (decimal : Decimal) (count : Nat) : (decimal.pad count).sameValue decimal := by
  induction count generalizing decimal with
  | zero => exact sameValue_refl decimal
  | succ count hypothesis =>
    unfold pad
    split
    · refine sameValue_trans (hypothesis _) ?_
      exact sameValue_of_shift 1 rfl (by rw [pow_one]) rfl
    · exact sameValue_refl decimal

theorem sameValue_padTo (decimal : Decimal) (places : Nat) :
    (decimal.padTo places).sameValue decimal :=
  decimal.sameValue_pad _

/-- Rounding does nothing where there are few enough places. -/
theorem round_of_scale_le {decimal : Decimal} {places : Nat} (short : decimal.scale ≤ places) :
    decimal.round places = decimal := by
  have uncut : decimal.cut places = decimal := dif_neg (Nat.not_lt.mpr short)
  unfold round
  rw [uncut]
  cases decimal with
  | mk negative coefficient scale small few => simp

/-- The decimal without a sign on zero. -/
def withoutZeroSign (decimal : Decimal) : Decimal :=
  ofParts decimal.negative decimal.coefficient decimal.scale decimal.coefficient_lt
    decimal.scale_le

theorem sameValue_withoutZeroSign (decimal : Decimal) :
    decimal.withoutZeroSign.sameValue decimal := by
  rw [sameValue_iff]
  unfold withoutZeroSign ofParts signedCoefficient
  cases decimal.negative <;> by_cases zero : decimal.coefficient = 0 <;> simp [zero]

/-! ### Normal forms -/

/-- The decimal of the same value without zeros after its last place and without a sign on zero. -/
def normal (decimal : Decimal) : Decimal := decimal.trim.withoutZeroSign

/-- A decimal has no zeros after its last place. -/
def IsTrimmed (decimal : Decimal) : Prop := decimal.scale = 0 ∨ decimal.coefficient % 10 ≠ 0

/-- Stripping zeros shifts a decimal as far as they go. -/
theorem strip_spec (decimal : Decimal) (scale coefficient : Nat) (small : coefficient < limit)
    (short : scale ≤ maxScale) :
    let kept := trim.strip decimal scale coefficient small short
    kept.negative = decimal.negative ∧ kept.IsTrimmed
      ∧ ∃ count, coefficient = kept.coefficient * 10 ^ count ∧ scale = kept.scale + count := by
  induction scale generalizing coefficient with
  | zero => exact ⟨rfl, Or.inl rfl, 0, by simp [trim.strip], rfl⟩
  | succ scale hypothesis =>
    unfold trim.strip
    split
    · rename_i zero
      obtain ⟨sign, trimmed, count, digits, places⟩ := hypothesis (coefficient / 10)
        (Nat.lt_of_le_of_lt (Nat.div_le_self _ _) small) (Nat.le_of_succ_le short)
      refine ⟨sign, trimmed, count + 1, ?_, by omega⟩
      rw [pow_succ, ← mul_assoc, ← digits]
      omega
    · rename_i last
      exact ⟨rfl, Or.inr last, 0, by simp, rfl⟩

theorem isTrimmed_trim (decimal : Decimal) : decimal.trim.IsTrimmed :=
  (strip_spec decimal _ _ _ _).2.1

theorem sameValue_trim (decimal : Decimal) : decimal.trim.sameValue decimal := by
  obtain ⟨sign, _, count, digits, places⟩ := strip_spec decimal decimal.scale decimal.coefficient
    decimal.coefficient_lt decimal.scale_le
  exact sameValue_symm (sameValue_of_shift count sign.symm digits places)

theorem sameValue_normal (decimal : Decimal) : decimal.normal.sameValue decimal :=
  sameValue_trans (sameValue_withoutZeroSign decimal.trim) (sameValue_trim decimal)

theorem normal_scale_le (decimal : Decimal) : decimal.normal.scale ≤ decimal.scale := by
  obtain ⟨_, _, _, _, places⟩ := strip_spec decimal decimal.scale decimal.coefficient
    decimal.coefficient_lt decimal.scale_le
  exact places ▸ Nat.le_add_right _ _

theorem natAbs_signedCoefficient (decimal : Decimal) :
    decimal.signedCoefficient.natAbs = decimal.coefficient := by
  unfold signedCoefficient
  split <;> simp

/-- Of two decimals with one value a trimmed one has no more places. -/
theorem IsTrimmed.scale_le (trimmed : second.IsTrimmed) (same : first.sameValue second) :
    second.scale ≤ first.scale := by
  by_contra longer
  have cross := congrArg Int.natAbs (sameValue_iff.mp same)
  rw [Int.natAbs_mul, Int.natAbs_mul, Int.natAbs_pow, Int.natAbs_pow, natAbs_signedCoefficient,
    natAbs_signedCoefficient] at cross
  have shifted : first.coefficient * 10 ^ (second.scale - first.scale - 1) * 10
      = second.coefficient := by
    refine Nat.eq_of_mul_eq_mul_right (Nat.pow_pos (by decide : 0 < 10) (n := first.scale)) ?_
    have split : (10 : Nat) ^ second.scale
        = 10 ^ (second.scale - first.scale - 1) * 10 * 10 ^ first.scale := by
      rw [← pow_succ, ← pow_add]
      congr 1
      omega
    rw [mul_assoc, mul_assoc, ← mul_assoc (10 ^ _), ← split]
    exact cross
  rcases trimmed with whole | last <;> omega

/-- Trimmed decimals without a sign on zero are told apart by their values. -/
theorem eq_of_sameValue (firstTrimmed : first.IsTrimmed) (secondTrimmed : second.IsTrimmed)
    (firstSign : first.coefficient = 0 → first.negative = false)
    (secondSign : second.coefficient = 0 → second.negative = false)
    (same : first.sameValue second) : first = second := by
  have places : first.scale = second.scale :=
    Nat.le_antisymm (firstTrimmed.scale_le (sameValue_symm same)) (secondTrimmed.scale_le same)
  have signed : first.signedCoefficient = second.signedCoefficient := by
    have cross := sameValue_iff.mp same
    rw [places] at cross
    exact Int.eq_of_mul_eq_mul_right (pow_ne_zero _ (by decide)) cross
  have digits : first.coefficient = second.coefficient := by
    rw [← natAbs_signedCoefficient, signed, natAbs_signedCoefficient]
  have sign : first.negative = second.negative := by
    by_cases zero : second.coefficient = 0
    · rw [secondSign zero, firstSign (digits.trans zero)]
    · unfold signedCoefficient at signed
      cases left : first.negative <;> cases right : second.negative <;>
        simp only [left, right, if_true, if_false, Bool.false_eq_true] at signed ⊢ <;> omega
  cases first
  cases second
  simp_all

/-- A trimmed decimal without a sign on zero is the normal form of every decimal of its value. -/
theorem IsTrimmed.eq_normal (trimmed : first.IsTrimmed)
    (sign : first.coefficient = 0 → first.negative = false) (same : first.sameValue second) :
    first = second.normal := by
  refine eq_of_sameValue trimmed (isTrimmed_trim second) sign ?_
    (sameValue_trans same (sameValue_symm (sameValue_normal second)))
  intro zero
  simp_all [normal, withoutZeroSign, ofParts]

/-- **Two decimals have one value where their normal forms are equal.** -/
theorem normal_eq_normal_iff : first.normal = second.normal ↔ first.sameValue second := by
  constructor
  · intro equal
    exact sameValue_trans (sameValue_symm (sameValue_normal first)) (equal ▸ sameValue_normal second)
  · intro same
    refine IsTrimmed.eq_normal (isTrimmed_trim first) ?_ (sameValue_trans (sameValue_normal first) same)
    intro zero
    simp_all [normal, withoutZeroSign, ofParts]

end Decimal

namespace Amount

/-- The amount of the same value that shows the fewest places. -/
def normal (amount : Amount) : Amount :=
  ⟨amount.value.normal, Nat.le_trans amount.value.normal_scale_le amount.scale_le⟩

/-- **Two amounts are the same money where their normal forms are equal.** -/
theorem normal_eq_normal_iff {first second : Amount} :
    first.normal = second.normal ↔ first.sameValue second := by
  unfold normal
  rw [Amount.mk.injEq]
  exact Decimal.normal_eq_normal_iff

/-- An amount that needs no rounding keeps its value. -/
theorem sameValue_round {value : Decimal} (short : value.scale ≤ places) :
    (round value).value.sameValue value := by
  have unrounded : (round value).value = value.padTo places :=
    congrArg (·.padTo places) (Decimal.round_of_scale_le short)
  rw [unrounded]
  exact value.sameValue_padTo places

end Amount

end Paydesk
