/-
**Amounts in cents.**

An amount with two places is a whole number of cents, and cents of 64 bits are what a column of
amounts holds. Whatever is rounded to cents and fits 64 bits has its two places.

* `Amount.HasCents`: an amount has so many cents and shows two places;
* `Amount.hasCents_round`: **a rounded amount that fits has its cents**;
* `Amount.HasCents.order_eq`: **amounts compare as their cents**;
* `Amount.IsCents`, `Amount.cents`: amounts with two places and without a sign on zero;
* `IsCents.read_write`: they are read back from their text;
* `IsCents.add`, `IsCents.sub`: **their sums and differences are exact while they fit**;
* `Amount.sum_eq_of_perm`: **a total does not depend on the sequence of its amounts**.
-/

import Paydesk.Proofs.Decimal.Minor
import Paydesk.Proofs.Decimal.Text
import Paydesk.Proofs.Decimal.Units

namespace Paydesk

theorem Text.toInt_of_toInt64? {number : Int} {short : Int64}
    (fits : Text.toInt64? number = some short) : short.toInt = number := by
  unfold toInt64? at fits
  split at fits
  · rename_i inside
    cases fits
    simp only [fitsInt64, Bool.and_eq_true, decide_eq_true_eq] at inside
    exact Int64.toInt_ofInt_of_le inside.1 inside.2
  · nomatch fits

/-- Numbers of 64 bits compare as the whole numbers that they are. -/
theorem compare_int64 (first second : Int64) :
    compare first second = compare first.toInt second.toInt := by
  simp [compare, compareOfLessAndEq, Int64.lt_iff_toInt_lt, ← Int64.toInt_inj]

namespace Decimal

/-- Zeros are appended until there are as many places as asked for or no more fit. -/
theorem pad_scale (decimal : Decimal) (count : Nat) (room : decimal.scale + count ≤ maxScale) :
    (decimal.pad count).scale = decimal.scale + count
      ∨ limit ≤ (decimal.pad count).coefficient * 10 := by
  induction count generalizing decimal with
  | zero => exact Or.inl rfl
  | succ count hypothesis =>
    unfold pad
    split
    · rcases hypothesis ⟨decimal.negative, decimal.coefficient * 10, decimal.scale + 1, by omega,
        by omega⟩ (by simp only; omega) with places | full
      · exact Or.inl (by rw [places]; simp only; omega)
      · exact Or.inr full
    · rename_i stopped
      refine Or.inr (Nat.not_lt.mp fun small => stopped ⟨small, by omega⟩)

end Decimal

namespace Amount

/-- An amount of so many cents that shows two places. -/
structure HasCents (amount : Amount) (cents : Int64) : Prop where
  places : amount.value.scale = places
  cents : amount.value.signedCoefficient = cents.toInt

theorem coefficient_lt_of_toMinor? {amount : Amount} {minor : Int64}
    (fits : amount.toMinor? = some minor) : amount.value.coefficient * 10 < Decimal.limit := by
  have signed := Text.toInt_of_toInt64? fits
  have lower := minor.le_toInt
  have upper := minor.toInt_lt
  have magnitude := amount.value.natAbs_signedCoefficient
  have bound : 9223372036854775808 * 10 < Decimal.limit := by decide
  omega

theorem eq_of_value {first second : Amount} (same : first.value = second.value) :
    first = second := by
  cases first
  cases second
  cases same
  rfl

/-- A rounded amount has two places unless it is too large to carry them. -/
theorem round_scale (value : Decimal) :
    (round value).value.scale = places ∨ Decimal.limit ≤ (round value).value.coefficient * 10 := by
  have short := value.round_scale_le places
  rcases (value.round places).pad_scale (places - (value.round places).scale) (by
    have bound : places ≤ Decimal.maxScale := by decide
    omega) with exact_places | full
  · exact Or.inl (exact_places.trans (Nat.add_sub_cancel' short))
  · exact Or.inr full

/-- Rounding once is enough. -/
theorem round_value_round (value : Decimal) : round (round value).value = round value := by
  have kept : (round value).value.padTo places = (round value).value := by
    unfold Decimal.padTo
    rcases round_scale value with exact_places | full
    · rw [exact_places, Nat.sub_self]
      rfl
    · cases places - (round value).value.scale with
      | zero => rfl
      | succ count => exact dif_neg fun room => absurd room.1 (Nat.not_lt.mpr full)
  refine eq_of_value ?_
  calc ((round value).value.round places).padTo places
      = (round value).value.padTo places := by
        rw [Decimal.round_of_scale_le (round value).scale_le]
    _ = (round value).value := kept

/-- **A rounded amount whose cents fit 64 bits has these cents.** -/
theorem hasCents_round {value : Decimal} {minor : Int64}
    (fits : (round value).toMinor? = some minor) : (round value).HasCents minor := by
  refine ⟨?_, (Text.toInt_of_toInt64? fits).symm⟩
  rcases round_scale value with exact_places | full
  · exact exact_places
  · exact absurd (coefficient_lt_of_toMinor? fits) (Nat.not_lt.mpr full)

/-- **Amounts compare as their cents.** -/
theorem HasCents.order_eq {first second : Amount} {left right : Int64} (one : first.HasCents left)
    (other : second.HasCents right) : compare first second = compare left right := by
  have unit : (0 : Int) < 10 ^ (Decimal.maxScale - Amount.places) := pow_pos (by decide) _
  change first.value.order second.value = compare left right
  rw [Decimal.order_eq_compare_units, Decimal.units, Decimal.units, one.places, other.places,
    Decimal.compare_mul_right unit, one.cents, other.cents, compare_int64]

/-! ### Sums of cents -/

/-- An amount shows two places and no sign on zero. -/
structure IsCents (amount : Amount) : Prop where
  places : amount.value.scale = places
  unsigned : amount.value.coefficient = 0 → amount.value.negative = false

instance (amount : Amount) : Decidable amount.IsCents :=
  decidable_of_iff (amount.value.scale = places
      ∧ (amount.value.coefficient = 0 → amount.value.negative = false))
    ⟨fun both => ⟨both.1, both.2⟩, fun cents => ⟨cents.places, cents.unsigned⟩⟩

/-- The cents of an amount with two places. -/
def cents (amount : Amount) : Int := amount.value.signedCoefficient

variable {first second : Amount}

theorem eq_of_cents (one : first.IsCents) (other : second.IsCents)
    (same : first.cents = second.cents) : first = second := by
  obtain ⟨places, unsigned⟩ := one
  obtain ⟨places_other, unsigned_other⟩ := other
  obtain ⟨⟨negative, coefficient, scale, small, short⟩, few⟩ := first
  obtain ⟨⟨negative_other, coefficient_other, scale_other, small_other, short_other⟩, few_other⟩ :=
    second
  simp only [cents, Decimal.signedCoefficient] at same places places_other unsigned unsigned_other
  have coefficients : coefficient = coefficient_other := by
    split at same <;> split at same <;> omega
  have signs : negative = negative_other := by
    subst coefficients
    by_cases zero : coefficient = 0
    · rw [unsigned zero, unsigned_other zero]
    · cases negative <;> cases negative_other <;> simp at same ⊢ <;> omega
  subst coefficients signs places places_other
  rfl

theorem isCents_zero : zero.IsCents := by decide

theorem IsCents.withoutZeroSign_eq (isCents : first.IsCents) :
    first.value.withoutZeroSign = first.value := by
  have sign : (first.value.negative && first.value.coefficient != 0) = first.value.negative := by
    by_cases nothing : first.value.coefficient = 0
    · rw [isCents.unsigned nothing, Bool.false_and]
    · rw [bne_iff_ne.mpr nothing, Bool.and_true]
  unfold Decimal.withoutZeroSign Decimal.ofParts
  simp only [sign]

theorem IsCents.round_eq (isCents : first.IsCents) : round first.value = first := by
  refine eq_of_value ?_
  change (first.value.round Amount.places).padTo Amount.places = first.value
  rw [Decimal.round_of_scale_le first.scale_le, Decimal.padTo, isCents.places, Nat.sub_self]
  rfl

/-- An amount in cents is read from a document as it is. -/
theorem IsCents.reread_eq (isCents : first.IsCents) : first.reread = first := by
  rw [reread, isCents.withoutZeroSign_eq, isCents.round_eq]

/-- **An amount in cents is read back from its text.** -/
theorem IsCents.read_write (isCents : first.IsCents) : read first.write = .ok first := by
  have text : first.write = first.value.write := by
    unfold write Decimal.writeFixed Decimal.write
    simp only [isCents.places, Nat.sub_self, Nat.add_zero, Nat.pow_eq, pow_zero, mul_one]
  unfold read
  rw [text, first.value.trimBlank_write, first.value.read_write, isCents.withoutZeroSign_eq]
  exact congrArg Except.ok isCents.round_eq

/-! ### Sums and differences -/

/-- A decimal with two places holds a number of cents. -/
structure HoldsCents (value : Decimal) (cents : Int) : Prop where
  places : value.scale = places
  unsigned : value.coefficient = 0 → value.negative = false
  signed : value.signedCoefficient = cents

theorem IsCents.holds (isCents : first.IsCents) : HoldsCents first.value first.cents :=
  ⟨isCents.places, isCents.unsigned, rfl⟩

/-- A number of cents with its sign, as sums and differences give it. -/
theorem fit_eq_some {cents : Int} (small : cents.natAbs < Decimal.limit) :
    ∃ value, Decimal.fit (cents < 0) cents.natAbs (Nat.pow 10 places) places (by decide) = some value
      ∧ HoldsCents value cents := by
  refine ⟨_, Decimal.fit_exact (cents < 0) small (by decide), rfl, ?_,
    Decimal.signedCoefficient_ofParts small (by decide)⟩
  intro zero
  simp only [Decimal.ofParts] at zero ⊢
  simp [zero]

section Results

variable {value : Decimal} {cents : Int} (holds : HoldsCents value cents)

include holds

/-- The amount of a sum that was found. -/
theorem add_eq_ok (found : first.value.add? second.value = some value) :
    ∃ sum, first.add second = .ok sum ∧ sum.IsCents ∧ sum.cents = cents := by
  obtain ⟨sum, added, rfl⟩ := exists_add found
  exact ⟨sum, added, ⟨holds.places, holds.unsigned⟩, holds.signed⟩

/-- The amount of a difference that was found. -/
theorem sub_eq_ok (found : first.value.sub? second.value = some value) :
    ∃ rest, first.sub second = .ok rest ∧ rest.IsCents ∧ rest.cents = cents := by
  obtain ⟨rest, taken, rfl⟩ := exists_sub found
  exact ⟨rest, taken, ⟨holds.places, holds.unsigned⟩, holds.signed⟩

end Results

theorem cents_of_isZero (nothing : first.value.isZero) : first.cents = 0 := by
  have coefficient : first.value.coefficient = 0 := beq_iff_eq.mp nothing
  unfold cents Decimal.signedCoefficient
  rw [coefficient]
  simp

/-- Decimals with two places are added as their cents. -/
theorem addAligned_eq_some {left right : Decimal} (one : left.scale = places)
    (other : right.scale = places)
    (small : (left.signedCoefficient + right.signedCoefficient).natAbs < Decimal.limit) :
    ∃ value, left.addAligned right = some value
      ∧ HoldsCents value (left.signedCoefficient + right.signedCoefficient) := by
  obtain ⟨value, fits, holds⟩ := fit_eq_some small
  refine ⟨value, ?_, holds⟩
  unfold Decimal.addAligned
  simp only [one, other, max_self, Nat.sub_self]
  simpa using fits

/-- **The sum of amounts in cents is exact while it fits.** -/
theorem IsCents.add (one : first.IsCents) (other : second.IsCents)
    (small : (first.cents + second.cents).natAbs < Decimal.limit) :
    ∃ sum, first.add second = .ok sum ∧ sum.IsCents ∧ sum.cents = first.cents + second.cents := by
  by_cases left_zero : first.value.isZero
  · rw [cents_of_isZero left_zero, zero_add]
    exact add_eq_ok other.holds (if_pos left_zero)
  · by_cases right_zero : second.value.isZero
    · rw [cents_of_isZero right_zero, add_zero]
      refine add_eq_ok one.holds ?_
      unfold Decimal.add?
      rw [if_neg left_zero, if_pos right_zero]
    · obtain ⟨value, aligned, holds⟩ := addAligned_eq_some one.places other.places small
      refine add_eq_ok holds ?_
      unfold Decimal.add?
      rw [if_neg left_zero, if_neg right_zero, aligned]

/-- The opposite of an amount in cents other than zero. -/
theorem IsCents.neg_holds (isCents : first.IsCents) (nonzero : ¬first.value.isZero) :
    HoldsCents first.value.neg (-first.cents) where
  places := isCents.places
  unsigned := fun nothing => absurd (beq_iff_eq.mpr nothing) nonzero
  signed := by
    unfold cents Decimal.signedCoefficient Decimal.neg
    cases first.value.negative <;> simp

/-- **The difference of amounts in cents is exact while it fits.** -/
theorem IsCents.sub (one : first.IsCents) (other : second.IsCents)
    (small : (first.cents - second.cents).natAbs < Decimal.limit) :
    ∃ rest, first.sub second = .ok rest ∧ rest.IsCents ∧ rest.cents = first.cents - second.cents := by
  by_cases right_zero : second.value.isZero
  · rw [cents_of_isZero right_zero, sub_zero]
    by_cases left_zero : first.value.isZero
    · rw [cents_of_isZero left_zero, ← cents_of_isZero right_zero]
      refine sub_eq_ok other.holds ?_
      unfold Decimal.sub?
      rw [if_pos right_zero, if_pos left_zero]
    · refine sub_eq_ok one.holds ?_
      unfold Decimal.sub?
      rw [if_pos right_zero, if_neg left_zero]
  · have opposite := other.neg_holds right_zero
    by_cases left_zero : first.value.isZero
    · rw [cents_of_isZero left_zero, zero_sub]
      refine sub_eq_ok opposite ?_
      unfold Decimal.sub?
      rw [if_neg right_zero, if_pos left_zero]
    · rw [sub_eq_add_neg] at small ⊢
      rw [← opposite.signed] at small ⊢
      obtain ⟨value, aligned, holds⟩ := addAligned_eq_some one.places opposite.places small
      refine sub_eq_ok holds ?_
      unfold Decimal.sub?
      rw [if_neg right_zero, if_neg left_zero, aligned]

/-! ### Totals -/

/-- **A total of amounts in cents is exact while all of them fit.** -/
theorem IsCents.foldlM_add {amounts : List Amount} (each : ∀ amount ∈ amounts, amount.IsCents)
    (start : first.IsCents)
    (small : first.cents.natAbs + (amounts.map (·.cents.natAbs)).sum < Decimal.limit) :
    ∃ total, amounts.foldlM Amount.add first = .ok total ∧ total.IsCents
      ∧ total.cents = first.cents + (amounts.map cents).sum := by
  induction amounts generalizing first with
  | nil => exact ⟨first, rfl, start, by simp⟩
  | cons amount rest hypothesis =>
    rw [List.forall_mem_cons] at each
    rw [List.map_cons, List.sum_cons] at small ⊢
    obtain ⟨sum, added, sum_cents, same⟩ := start.add each.1 (by omega)
    obtain ⟨total, folded, total_cents, exact_total⟩ :=
      hypothesis each.2 sum_cents (by rw [same]; omega)
    refine ⟨total, ?_, total_cents, ?_⟩
    · rw [List.foldlM_cons, added]
      exact folded
    · rw [exact_total, same, add_assoc]

theorem sum_eq {amounts : List Amount} (each : ∀ amount ∈ amounts, amount.IsCents)
    (small : (amounts.map (·.cents.natAbs)).sum < Decimal.limit) :
    ∃ total, sum amounts = .ok total ∧ total.IsCents ∧ total.cents = (amounts.map cents).sum := by
  have nothing : zero.cents = 0 := rfl
  obtain ⟨total, folded, total_cents, exact_total⟩ := isCents_zero.foldlM_add each (by simpa [nothing])
  exact ⟨total, folded, total_cents, by rw [exact_total, nothing, zero_add]⟩

/-- **A total does not depend on the sequence of its amounts.** -/
theorem sum_eq_of_perm {amounts others : List Amount} (same : amounts.Perm others)
    (each : ∀ amount ∈ amounts, amount.IsCents)
    (small : (amounts.map (·.cents.natAbs)).sum < Decimal.limit) : sum amounts = sum others := by
  obtain ⟨total, summed, total_cents, exact_total⟩ := sum_eq each small
  have sizes := (same.map fun amount => amount.cents.natAbs).sum_eq
  obtain ⟨other, summed_other, other_cents, exact_other⟩ :=
    sum_eq (fun amount member => each amount (same.mem_iff.mpr member)) (sizes ▸ small)
  have equal : total = other :=
    eq_of_cents total_cents other_cents
      (by rw [exact_total, exact_other, (same.map cents).sum_eq])
  rw [summed, summed_other, equal]

end Amount

end Paydesk
