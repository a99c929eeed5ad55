/-
**Amounts as whole numbers of cents.**

No amount has more than two places, so each is a whole number of cents, however many of its places
it shows. Amounts are added and taken from each other as their cents, as long as the result fits a
decimal, and a list of amounts is summed up exactly while its partial sums fit.

* `Amount.minor`, `Amount.sameValue_iff_minor`: the cents of any amount, and that they are its
  value;
* `Amount.compare_eq_minor`: amounts compare as their cents;
* `Amount.add_minor`, `Amount.sub_minor`: **sums and differences are exact while they fit**;
* `Amount.exists_sum`: totals are exact while the partial sums fit, whatever is counted;
* `Amount.SumsFit`, `Amount.sum_minor_of_fits`: **totals are exact while they fit a decimal**;
* `Amount.StaySmall`, `Amount.sumsFit_of_few`: partial sums that fit in any sequence.
-/

import Mathlib.Algebra.Order.BigOperators.Group.List
import Mathlib.Data.List.Infix
import Paydesk.Proofs.Decimal.Units

namespace Paydesk

namespace Decimal

/-- A whole number of units in the last place needs no rounding. -/
theorem fit_exact (negative : Bool) {coefficient scale : Nat} (small : coefficient < limit)
    (short : scale ≤ maxScale) :
    fit negative coefficient (Nat.pow 10 scale) scale short
      = some (ofParts negative coefficient scale small short) := by
  cases scale with
  | zero =>
    have kept : quotientHalfEven coefficient (Nat.pow 10 0) = coefficient := by
      simpa using quotientHalfEven_exact coefficient (Nat.one_pos)
    unfold fit ofParts?
    simp only [kept, small, Nat.zero_le, and_self, dite_true]
  | succ scale =>
    have kept : quotientHalfEven (coefficient * Nat.pow 10 (scale + 1)) (Nat.pow 10 (scale + 1))
        = coefficient := quotientHalfEven_exact coefficient (Nat.pow_pos (by decide))
    unfold fit
    simp only [kept, small, dite_true]

/-- The parts of a whole number and its sign make it up. -/
theorem signedCoefficient_ofParts {number : Int} {scale : Nat} (small : number.natAbs < limit)
    (short : scale ≤ maxScale) :
    (ofParts (number < 0) number.natAbs scale small short).signedCoefficient = number := by
  unfold signedCoefficient ofParts
  by_cases negative : number < 0
  · have nonzero : (number.natAbs != 0) = true := bne_iff_ne.mpr (by omega)
    simp only [negative, nonzero, decide_true, Bool.and_self, if_true]
    omega
  · simp only [negative, decide_false, Bool.false_and, Bool.false_eq_true, if_false]
    omega

theorem signedCoefficient_of_isZero {decimal : Decimal} (nothing : decimal.isZero) :
    decimal.signedCoefficient = 0 := by
  have coefficient : decimal.coefficient = 0 := beq_iff_eq.mp nothing
  unfold signedCoefficient
  rw [coefficient]
  simp

theorem signedCoefficient_neg (decimal : Decimal) :
    decimal.neg.signedCoefficient = -decimal.signedCoefficient := by
  unfold signedCoefficient neg
  cases decimal.negative <;> simp

/-- How many cents a decimal of at most two places is. -/
def minor (decimal : Decimal) : Int :=
  decimal.signedCoefficient * 10 ^ (Amount.places - decimal.scale)

theorem minor_of_isZero {decimal : Decimal} (nothing : decimal.isZero) : decimal.minor = 0 := by
  unfold minor
  rw [signedCoefficient_of_isZero nothing, zero_mul]

theorem minor_neg (decimal : Decimal) : decimal.neg.minor = -decimal.minor := by
  unfold minor
  rw [signedCoefficient_neg, neg_mul]
  rfl

/-- Decimals of at most two places are added as their cents, at the larger of their scales. -/
theorem addAligned_minor {left right : Decimal} (one : left.scale ≤ Amount.places)
    (other : right.scale ≤ Amount.places) (small : (left.minor + right.minor).natAbs < limit) :
    ∃ value, left.addAligned right = some value ∧ value.minor = left.minor + right.minor := by
  let scale := max left.scale right.scale
  let sum := left.signedCoefficient * 10 ^ (scale - left.scale)
    + right.signedCoefficient * 10 ^ (scale - right.scale)
  have short : scale ≤ Amount.places := Nat.max_le.mpr ⟨one, other⟩
  have shift {inner : Nat} (inside : inner ≤ scale) :
      Amount.places - inner = scale - inner + (Amount.places - scale) := by omega
  have exact_sum : sum * 10 ^ (Amount.places - scale) = left.minor + right.minor := by
    unfold minor
    rw [shift (Nat.le_max_left _ _), shift (Nat.le_max_right _ _), pow_add, pow_add]
    ring
  have sum_small : sum.natAbs < limit := by
    refine Nat.lt_of_le_of_lt ?_ small
    rw [← exact_sum, Int.natAbs_mul]
    exact Nat.le_mul_of_pos_right _ (Int.natAbs_pos.mpr (pow_ne_zero _ (by decide)))
  have few : scale ≤ maxScale := Nat.le_trans short (by decide)
  refine ⟨.ofParts (sum < 0) sum.natAbs scale sum_small few, ?_, ?_⟩
  · have fits := fit_exact (sum < 0) sum_small few
    unfold addAligned
    simpa [sum, scale] using fits
  · rw [← exact_sum]
    unfold minor
    rw [signedCoefficient_ofParts]
    rfl

end Decimal

namespace Amount

/-- How many cents an amount is. -/
def minor (amount : Amount) : Int := amount.value.minor

/-- **Two amounts are the same money where their cents are equal.** -/
theorem sameValue_iff_minor {first second : Amount} :
    first.sameValue second ↔ first.minor = second.minor := by
  have cents (one other : Amount) : one.minor * 10 ^ (one.value.scale + other.value.scale)
      = one.value.signedCoefficient * 10 ^ other.value.scale * 10 ^ places := by
    have split : places = places - one.value.scale + one.value.scale :=
      (Nat.sub_add_cancel one.scale_le).symm
    calc one.minor * 10 ^ (one.value.scale + other.value.scale)
        = one.value.signedCoefficient * 10 ^ other.value.scale
            * 10 ^ (places - one.value.scale + one.value.scale) := by
          unfold minor Decimal.minor; ring
      _ = one.value.signedCoefficient * 10 ^ other.value.scale * 10 ^ places := by rw [← split]
  have scales : (10 : Int) ^ (first.value.scale + second.value.scale) ≠ 0 :=
    pow_ne_zero _ (by decide)
  have unit : (10 : Int) ^ places ≠ 0 := pow_ne_zero _ (by decide)
  have left := cents first second
  have right := cents second first
  rw [Nat.add_comm] at right
  unfold sameValue
  rw [Decimal.sameValue_iff]
  constructor
  · intro same
    exact mul_right_cancel₀ scales (by rw [left, right, same])
  · intro same
    exact mul_right_cancel₀ unit (by rw [← left, ← right, same])

/-- **Amounts compare as their cents.** -/
theorem compare_eq_minor (first second : Amount) :
    compare first second = compare first.minor second.minor := by
  have units (amount : Amount) :
      amount.value.units = amount.minor * 10 ^ (Decimal.maxScale - places) := by
    have split : Decimal.maxScale - amount.value.scale
        = places - amount.value.scale + (Decimal.maxScale - places) := by
      have short : places ≤ Decimal.maxScale := by decide
      have few := amount.scale_le
      omega
    unfold Decimal.units minor Decimal.minor
    rw [split, pow_add, mul_assoc]
  calc compare first second
      = compare first.value.units second.value.units := Decimal.order_eq_compare_units _ _
    _ = compare first.minor second.minor := by
        rw [units, units]
        exact Decimal.compare_mul_right (pow_pos (by decide) _) _ _

/-! ### Sums and differences -/

section Results

variable {first second : Amount} {value : Decimal}

theorem exists_add (found : first.value.add? second.value = some value) :
    ∃ sum, first.add second = .ok sum ∧ sum.value = value := by
  unfold add
  split
  · rename_i other same
    cases found.symm.trans same
    exact ⟨_, rfl, rfl⟩
  · rename_i missing
    nomatch found.symm.trans missing

theorem exists_sub (found : first.value.sub? second.value = some value) :
    ∃ rest, first.sub second = .ok rest ∧ rest.value = value := by
  unfold sub
  split
  · rename_i other same
    cases found.symm.trans same
    exact ⟨_, rfl, rfl⟩
  · rename_i missing
    nomatch found.symm.trans missing

theorem exists_add_minor (found : first.value.add? second.value = some value) :
    ∃ sum, first.add second = .ok sum ∧ sum.minor = value.minor := by
  obtain ⟨sum, added, rfl⟩ := exists_add found
  exact ⟨sum, added, rfl⟩

theorem exists_sub_minor (found : first.value.sub? second.value = some value) :
    ∃ rest, first.sub second = .ok rest ∧ rest.minor = value.minor := by
  obtain ⟨rest, taken, rfl⟩ := exists_sub found
  exact ⟨rest, taken, rfl⟩

/-- **The sum of two amounts is exact while it fits.** -/
theorem add_minor (small : (first.minor + second.minor).natAbs < Decimal.limit) :
    ∃ sum, first.add second = .ok sum ∧ sum.minor = first.minor + second.minor := by
  unfold minor at small ⊢
  by_cases left_zero : first.value.isZero
  · rw [Decimal.minor_of_isZero left_zero, zero_add]
    exact exists_add_minor (if_pos left_zero)
  · by_cases right_zero : second.value.isZero
    · rw [Decimal.minor_of_isZero right_zero, add_zero]
      refine exists_add_minor ?_
      unfold Decimal.add?
      rw [if_neg left_zero, if_pos right_zero]
    · obtain ⟨value, aligned, same⟩ := Decimal.addAligned_minor first.scale_le second.scale_le small
      rw [← same]
      refine exists_add_minor ?_
      unfold Decimal.add?
      rw [if_neg left_zero, if_neg right_zero, aligned]

/-- **The difference of two amounts is exact while it fits.** -/
theorem sub_minor (small : (first.minor - second.minor).natAbs < Decimal.limit) :
    ∃ rest, first.sub second = .ok rest ∧ rest.minor = first.minor - second.minor := by
  unfold minor at small ⊢
  rw [sub_eq_add_neg, ← Decimal.minor_neg] at small ⊢
  by_cases right_zero : second.value.isZero
  · rw [Decimal.minor_neg, Decimal.minor_of_isZero right_zero, neg_zero, add_zero]
    by_cases left_zero : first.value.isZero
    · rw [Decimal.minor_of_isZero left_zero, ← Decimal.minor_of_isZero right_zero]
      refine exists_sub_minor ?_
      unfold Decimal.sub?
      rw [if_pos right_zero, if_pos left_zero]
    · refine exists_sub_minor ?_
      unfold Decimal.sub?
      rw [if_pos right_zero, if_neg left_zero]
  · by_cases left_zero : first.value.isZero
    · rw [Decimal.minor_of_isZero left_zero, zero_add]
      refine exists_sub_minor ?_
      unfold Decimal.sub?
      rw [if_neg right_zero, if_pos left_zero]
    · have opposite_scale : second.value.neg.scale ≤ places := second.scale_le
      obtain ⟨value, aligned, same⟩ :=
        Decimal.addAligned_minor first.scale_le opposite_scale small
      rw [← same]
      refine exists_sub_minor ?_
      unfold Decimal.sub?
      rw [if_neg right_zero, if_neg left_zero, aligned]

/-- A sum that fits is exact. -/
theorem minor_of_add {sum : Amount} (added : first.add second = .ok sum)
    (small : (first.minor + second.minor).natAbs < Decimal.limit) :
    sum.minor = first.minor + second.minor := by
  obtain ⟨other, found, exact_sum⟩ := add_minor small
  obtain rfl := Except.ok.inj (added.symm.trans found)
  exact exact_sum

/-- A difference that fits is exact. -/
theorem minor_of_sub {rest : Amount} (taken : first.sub second = .ok rest)
    (small : (first.minor - second.minor).natAbs < Decimal.limit) :
    rest.minor = first.minor - second.minor := by
  obtain ⟨other, found, exact_rest⟩ := sub_minor small
  obtain rfl := Except.ok.inj (taken.symm.trans found)
  exact exact_rest

end Results

/-! ### Totals -/

/-- A sum of numbers is no larger than all of them together. -/
theorem natAbs_sum_le {α : Type} (number : α → Int) (items : List α) :
    ((items.map number).sum).natAbs ≤ (items.map fun item => (number item).natAbs).sum := by
  induction items with
  | nil => exact Nat.le_refl 0
  | cons item rest hypothesis =>
    rw [List.map_cons, List.map_cons, List.sum_cons, List.sum_cons]
    omega

/-- The cents of a list of amounts together. -/
def minorSum (amounts : List Amount) : Int := (amounts.map minor).sum

@[simp] theorem minorSum_nil : minorSum [] = 0 := rfl

@[simp] theorem minorSum_cons (amount : Amount) (amounts : List Amount) :
    minorSum (amount :: amounts) = amount.minor + minorSum amounts := by
  simp [minorSum]

theorem minorSum_append (amounts others : List Amount) :
    minorSum (amounts ++ others) = minorSum amounts + minorSum others := by
  simp [minorSum]

theorem minorSum_perm {amounts others : List Amount} (same : amounts.Perm others) :
    minorSum amounts = minorSum others :=
  (same.map minor).sum_eq

/-- Every partial sum of amounts, from the first of them on, is below `2 ^ 63` cents. -/
def StaySmall (amounts : List Amount) : Prop :=
  ∀ taken ∈ amounts.inits, (minorSum taken).natAbs < 2 ^ 63

instance (amounts : List Amount) : Decidable (StaySmall amounts) :=
  inferInstanceAs (Decidable (∀ taken ∈ amounts.inits, (minorSum taken).natAbs < 2 ^ 63))

theorem StaySmall.lt {amounts : List Amount} (small : StaySmall amounts) :
    (minorSum amounts).natAbs < 2 ^ 63 :=
  small amounts ((List.mem_inits _ _).mpr List.prefix_rfl)

/-- Where partial sums stay small, an amount is no more than the way from one to the next. -/
theorem StaySmall.minor_lt {amounts : List Amount} (small : StaySmall amounts) {amount : Amount}
    (member : amount ∈ amounts) : amount.minor.natAbs < 2 ^ 64 := by
  obtain ⟨before, after, rfl⟩ := List.append_of_mem member
  have until_before := small before ((List.mem_inits _ _).mpr (List.prefix_append _ _))
  have until_amount := small (before ++ [amount]) ((List.mem_inits _ _).mpr (by simp))
  rw [minorSum_append, minorSum_cons, minorSum_nil, add_zero] at until_amount
  omega

/-- Partial sums stay small where all the amounts together do. -/
theorem staySmall_of_sublist {amounts others : List Amount} (part : others.Sublist amounts)
    (small : (amounts.map (·.minor.natAbs)).sum < 2 ^ 63) : StaySmall others := by
  intro taken isPrefix
  have sublist := ((List.mem_inits _ _).mp isPrefix).sublist.trans part
  calc (minorSum taken).natAbs ≤ (taken.map (·.minor.natAbs)).sum := natAbs_sum_le minor taken
    _ ≤ (amounts.map (·.minor.natAbs)).sum :=
        (sublist.map _).sum_le_sum fun _ _ => Nat.zero_le _
    _ < 2 ^ 63 := small

/-- Adding up amounts is exact while every sum on the way fits, whatever is counted of them: by
induction on the amounts, from any start. -/
theorem exists_foldlM_add {Count : Type} [AddMonoid Count] {count : Amount → Count}
    (fits : Count → Prop)
    (step : ∀ first second : Amount, fits (count first + count second) →
      ∃ sum, first.add second = .ok sum ∧ count sum = count first + count second)
    {amounts : List Amount} {start : Amount}
    (each : ∀ taken ∈ amounts.inits, fits (count start + (taken.map count).sum)) :
    ∃ total, amounts.foldlM add start = .ok total
      ∧ count total = count start + (amounts.map count).sum := by
  induction amounts generalizing start with
  | nil => exact ⟨start, rfl, by simp⟩
  | cons amount rest hypothesis =>
    have head := each [amount] (by simp [List.mem_inits])
    rw [List.map_singleton, List.sum_singleton] at head
    obtain ⟨sum, added, same⟩ := step start amount head
    have further : ∀ taken ∈ rest.inits, fits (count sum + (taken.map count).sum) := by
      intro taken isPrefix
      rw [List.mem_inits] at isPrefix
      have longer := each (amount :: taken)
        ((List.mem_inits _ _).mpr ((List.prefix_cons_inj amount).mpr isPrefix))
      rwa [List.map_cons, List.sum_cons, ← add_assoc, ← same] at longer
    obtain ⟨total, folded, exact_total⟩ := hypothesis further
    refine ⟨total, ?_, ?_⟩
    · rw [List.foldlM_cons, added]
      exact folded
    · rw [exact_total, same, List.map_cons, List.sum_cons, add_assoc]

/-- A total is exact while every sum on the way fits, whatever is counted of the amounts. -/
theorem exists_sum {Count : Type} [AddMonoid Count] {count : Amount → Count} (fits : Count → Prop)
    (step : ∀ first second : Amount, fits (count first + count second) →
      ∃ sum, first.add second = .ok sum ∧ count sum = count first + count second)
    (nothing : count zero = 0) {amounts : List Amount}
    (each : ∀ taken ∈ amounts.inits, fits (taken.map count).sum) :
    ∃ total, sum amounts = .ok total ∧ count total = (amounts.map count).sum := by
  have each_zero : ∀ taken ∈ amounts.inits, fits (count zero + (taken.map count).sum) := by
    intro taken isPrefix
    rw [nothing, zero_add]
    exact each taken isPrefix
  obtain ⟨total, folded, exact_total⟩ := exists_foldlM_add fits step each_zero
  exact ⟨total, folded, by rw [exact_total, nothing, zero_add]⟩

/-- Every partial sum of amounts, from the first of them on, fits a decimal. -/
def SumsFit (amounts : List Amount) : Prop :=
  ∀ taken ∈ amounts.inits, (minorSum taken).natAbs < Decimal.limit

theorem StaySmall.fits {amounts : List Amount} (small : StaySmall amounts) : SumsFit amounts :=
  fun taken isPrefix => Nat.lt_trans (small taken isPrefix) (by decide)

/-- Amounts that are not too many fit in any sequence. -/
theorem sumsFit_of_few {amounts : List Amount}
    (each : ∀ amount ∈ amounts, amount.minor.natAbs < 2 ^ 64) (few : amounts.length < 2 ^ 32) :
    SumsFit amounts := by
  intro taken isPrefix
  have initial := (List.mem_inits _ _).mp isPrefix
  have sizes : ∀ size ∈ taken.map (·.minor.natAbs), size ≤ 2 ^ 64 := by
    intro size member
    obtain ⟨amount, inside, rfl⟩ := List.mem_map.mp member
    exact (each amount (initial.subset inside)).le
  have shorter := initial.length_le
  calc (minorSum taken).natAbs ≤ (taken.map (·.minor.natAbs)).sum := natAbs_sum_le minor taken
    _ ≤ taken.length * 2 ^ 64 := by
        have bound := List.sum_le_card_nsmul _ _ sizes
        rw [List.length_map] at bound
        exact bound
    _ < 2 ^ 32 * 2 ^ 64 := Nat.mul_lt_mul_of_pos_right (by omega) (by decide)
    _ = Decimal.limit := by decide

/-- **A total is exact while every partial sum fits a decimal.** -/
theorem sum_minor_of_fits {amounts : List Amount} (fits : SumsFit amounts) :
    ∃ total, sum amounts = .ok total ∧ total.minor = minorSum amounts :=
  exists_sum (fun cents : Int => cents.natAbs < Decimal.limit) (fun _ _ => add_minor) (by decide)
    fits

end Amount

end Paydesk
