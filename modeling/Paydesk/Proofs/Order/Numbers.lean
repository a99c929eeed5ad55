/-
**Short numbers read back.**

A number among the parameters is written as a double, and the double is read by its digits. A
decimal of at most 15 digits and 22 places is found again that way, only without zeros after its
last place; so an order all of whose numbers are short is read back as an equal order.

* `Binary64.toList_writePlain`: the digits of a double as those of a decimal;
* `Decimal.reread?_eq`: **a short decimal is read back in its normal form**;
* `Param.IsShort`, `Order.IsShort`: every number among the parameters is short;
* `Params.IsNormal.mapValues_normal`: parameters whose numbers show no such zeros stay as they are;
* `Order.IsShort.read?_text`: **an order with short numbers is read back**.
-/

import Mathlib.Data.Nat.Factorization.Basic
import Paydesk.Proofs.Json.Double
import Paydesk.Proofs.Order.Document

namespace Paydesk

open Text (digits)

/-! ### Digits without an exponent -/

theorem Decimal.writeParts_zero (coefficient : Nat) :
    Decimal.writeParts coefficient 0 = digits coefficient := by
  have wide : 0 + 1 ≤ (digits coefficient).length :=
    List.length_pos_of_ne_nil (Text.digits_ne_nil coefficient)
  unfold Decimal.writeParts Text.padZeros
  simp only [Nat.sub_eq_zero_of_le wide, List.replicate_zero, List.nil_append, Nat.sub_zero,
    List.take_length, if_true]

/-- **The digits of a double are those of a decimal.** -/
theorem Binary64.toList_writePlain {number : Binary64} {point : Nat} {power : ℤ}
    (some_digit : number.isZero = false) (some_point : 0 < point)
    (shortest : number.shortest .up = (point, power)) :
    number.writePlain.toList = (if number.negative then ['-'] else [])
      ++ Decimal.writeParts (point * 10 ^ power.toNat) (-power).toNat := by
  have signed (magnitude : List Char) : (if number.negative then '-' :: magnitude else magnitude)
      = (if number.negative then ['-'] else []) ++ magnitude := by
    cases number.negative <;> rfl
  unfold writePlain
  simp only [some_digit, shortest, Bool.false_eq_true, if_false, String.toList_ofList]
  rw [signed]
  congr 1
  split_ifs with whole
  · have none : (-power).toNat = 0 := by omega
    rw [none, Decimal.writeParts_zero, Text.digits_mul_pow some_point]
  · have some_place : (-power).toNat ≠ 0 := by omega
    have none : power.toNat = 0 := by omega
    unfold Decimal.writeParts
    rw [none, Nat.pow_zero, Nat.mul_one, if_neg some_place]

namespace Decimal

/-- The double zero is read as zero. -/
theorem readBack_zero : Json.readBack? (.zero false) >>= Param.read? = some (.number zero) := by
  rfl

/-- The digits of a decimal other than zero, and their power of ten. -/
theorem exists_digits {decimal : Decimal} (some_digit : 0 < decimal.coefficient) :
    ∃ point zeros : Nat, decimal.coefficient = point * 10 ^ zeros ∧ point % 10 ≠ 0 := by
  obtain ⟨zeros, point, last, split⟩ :=
    Nat.exists_eq_pow_mul_and_not_dvd some_digit.ne' 10 (by decide)
  exact ⟨point, zeros, by rw [split, Nat.mul_comm], fun none => last (Nat.dvd_of_mod_eq_zero none)⟩

/-- The normal form of a decimal, from its digits. -/
theorem normal_parts {decimal : Decimal} {point zeros : Nat} (last : point % 10 ≠ 0)
    (split : decimal.coefficient = point * 10 ^ zeros) :
    decimal.normal.negative = decimal.negative
      ∧ decimal.normal.coefficient = point * 10 ^ (zeros - decimal.scale)
      ∧ decimal.normal.scale = decimal.scale - zeros := by
  have fewer : point * 10 ^ (zeros - decimal.scale) ≤ decimal.coefficient := by
    rw [split]
    exact Nat.mul_le_mul_left _ (Nat.pow_le_pow_right (by decide) (Nat.sub_le _ _))
  let kept : Decimal := ⟨decimal.negative, point * 10 ^ (zeros - decimal.scale),
    decimal.scale - zeros, fewer.trans_lt decimal.coefficient_lt,
    (Nat.sub_le _ _).trans decimal.scale_le⟩
  have trimmed : kept.IsTrimmed := by
    rcases Nat.le_total decimal.scale zeros with whole | places
    · exact Or.inl (Nat.sub_eq_zero_of_le whole)
    · refine Or.inr ?_
      simp only [kept, Nat.sub_eq_zero_of_le places, Nat.pow_zero, Nat.mul_one]
      exact last
  have some_digit : kept.coefficient ≠ 0 := by
    have some_point : 0 < point := by omega
    exact (Nat.mul_pos some_point (Nat.pow_pos (by decide))).ne'
  have same : kept.sameValue decimal := by
    have powers : (10 : ℤ) ^ (zeros - decimal.scale) * 10 ^ decimal.scale
        = 10 ^ zeros * 10 ^ (decimal.scale - zeros) := by
      rw [← pow_add, ← pow_add]
      congr 1
      omega
    rw [sameValue_iff]
    unfold signedCoefficient
    simp only [kept, split]
    push_cast
    split_ifs
    · rw [neg_mul, neg_mul, mul_assoc, mul_assoc, powers]
    · rw [mul_assoc, mul_assoc, powers]
  rw [← trimmed.eq_normal (fun none => absurd none some_digit) same]
  exact ⟨rfl, rfl, rfl⟩

/-- A number other than zero is read of its double. -/
theorem read?_float {decimal : Decimal} {number : Binary64} (some_digit : decimal.coefficient ≠ 0)
    (written : number.writePlain = decimal.write) :
    Param.read? (.float number) = some (.number decimal) := by
  have unsigned : decimal.withoutZeroSign = decimal := by
    obtain ⟨negative, coefficient, scale, small, few⟩ := decimal
    simp only at some_digit
    simp [withoutZeroSign, ofParts, some_digit]
  have read : Json.readDecimal? (.float number) = some decimal := by
    change (Decimal.read number.writePlain).toOption = _
    rw [written, read_write, unsigned]
    rfl
  unfold Param.read?
  rw [read]
  rfl

/-- **A short decimal is read back in its normal form.** -/
theorem reread?_eq {decimal : Decimal} (short : decimal.IsShort) :
    decimal.reread? = some decimal.normal := by
  rcases Nat.eq_zero_or_pos decimal.coefficient with none | some_digit
  · have normal_eq : zero = decimal.normal := by
      refine IsTrimmed.eq_normal (Or.inl rfl) (fun _ => rfl) ?_
      rw [sameValue_iff]
      unfold signedCoefficient
      rw [none]
      simp [zero]
    unfold reread?
    rw [toBinary64_eq_zero short none, readBack_zero, ← normal_eq]
  · obtain ⟨point, zeros, split, last⟩ := exists_digits some_digit
    obtain ⟨sign, nearest⟩ := isNearest_toBinary64 short some_digit
    obtain ⟨normal_sign, normal_digits, normal_scale⟩ := normal_parts last split
    have multiple : (decimal.coefficient : ℚ) / 10 ^ decimal.scale
        = point * 10 ^ ((zeros : ℤ) - decimal.scale) := by
      rw [split, zpow_sub₀ (by norm_num), zpow_natCast, zpow_natCast]
      push_cast
      ring
    have small : (decimal.coefficient : ℚ) / 10 ^ decimal.scale < 10 ^ 15 := by
      refine (div_le_self (Nat.cast_nonneg _) (one_le_pow₀ (by norm_num))).trans_lt ?_
      exact_mod_cast short.digits
    have some_point : 0 < point := by omega
    have point_small : point < 10 ^ 15 :=
      calc point ≤ point * 10 ^ zeros := Nat.le_mul_of_pos_right _ (Nat.pow_pos (by decide))
        _ < 10 ^ 15 := split ▸ short.digits
    have written : decimal.toBinary64.writePlain = decimal.normal.write := by
      have before : ((zeros : ℤ) - decimal.scale).toNat = zeros - decimal.scale := by omega
      have after : (-((zeros : ℤ) - decimal.scale)).toNat = decimal.scale - zeros := by omega
      have plain := Binary64.toList_writePlain
        (beq_eq_false_iff_ne.mpr nearest.rounds.mantissa_pos.ne') some_point
        (nearest.rounds.shortest_eq multiple last point_small .up)
      rw [before, after, sign] at plain
      refine String.toList_injective ?_
      rw [plain, toList_write, normal_sign, normal_digits, normal_scale]
    have normal_some : decimal.normal.coefficient ≠ 0 := by
      rw [normal_digits]
      exact (Nat.mul_pos some_point (Nat.pow_pos (by decide))).ne'
    have places := short.places
    have readBack := Json.readBack?_eq nearest multiple last small point_small (by omega)
    unfold reread?
    rw [readBack, Option.bind_eq_bind, Option.bind_some, read?_float normal_some written]

theorem reread_eq {decimal : Decimal} (short : decimal.IsShort) : decimal.reread = decimal.normal := by
  rw [reread, reread?_eq short, Option.getD_some]

end Decimal

/-- Of twenty digits a double keeps seventeen. -/
example : (Decimal.ofInt? 18446744073709551615 >>= Decimal.reread?)
    = Decimal.ofInt? 18446744073709552000 := by decide +kernel

/-! ### Orders -/

/-- A parameter is no number, or a short one. -/
def Param.IsShort : Param → Prop
  | .number value => value.IsShort
  | _ => True

instance : DecidablePred Param.IsShort
  | .number value => inferInstanceAs (Decidable value.IsShort)
  | .flag _ | .whole _ | .text _ => isTrue trivial

/-- A parameter is no number, or one that shows no zeros after its last place. -/
def Param.IsNormal : Param → Prop
  | .number value => value.normal = value
  | _ => True

instance : DecidablePred Param.IsNormal
  | .number value => inferInstanceAs (Decidable (value.normal = value))
  | .flag _ | .whole _ | .text _ => isTrue trivial

namespace Params

/-- Every number among the parameters is short. -/
def IsShort (params : Params) : Prop := ∀ entry ∈ params.entries, entry.2.IsShort

instance (params : Params) : Decidable params.IsShort :=
  inferInstanceAs (Decidable (∀ entry ∈ params.entries, entry.2.IsShort))

/-- Every number among the parameters shows no zeros after its last place. -/
def IsNormal (params : Params) : Prop := ∀ entry ∈ params.entries, entry.2.IsNormal

instance (params : Params) : Decidable params.IsNormal :=
  inferInstanceAs (Decidable (∀ entry ∈ params.entries, entry.2.IsNormal))

variable {params : Params}

theorem IsShort.isReadable (short : params.IsShort) : params.IsReadable := by
  intro entry member
  have short_entry := short entry member
  cases shape : entry.2 with
  | number value =>
    rw [shape] at short_entry
    exact Option.isSome_iff_exists.mpr ⟨_, Decimal.reread?_eq short_entry⟩
  | flag | whole | text => trivial

/-- Short numbers are read back in their normal forms. -/
theorem IsShort.mapValues_reread (short : params.IsShort) :
    params.mapValues (Param.mapNumber Decimal.reread)
      = params.mapValues (Param.mapNumber Decimal.normal) := by
  refine Dict.mapValues_congr fun entry member => ?_
  have short_entry := short entry member
  cases shape : entry.2 with
  | number value =>
    rw [shape] at short_entry
    rw [Param.mapNumber, Param.mapNumber, Decimal.reread_eq short_entry]
  | flag | whole | text => rfl

/-- Parameters whose numbers show no zeros after their last places are in their normal form. -/
theorem IsNormal.mapValues_normal (normal : params.IsNormal) :
    params.mapValues (Param.mapNumber Decimal.normal) = params := by
  refine (Dict.mapValues_congr fun entry member => ?_).trans params.mapValues_id
  have normal_entry := normal entry member
  cases shape : entry.2 with
  | number value =>
    rw [shape] at normal_entry
    exact congrArg Param.number normal_entry
  | flag | whole | text => rfl

end Params

namespace Order

/-- Every number among an order's parameters is short. -/
structure IsShort (order : Order) : Prop where
  projectParams : order.projectParams.IsShort
  additional : order.transaction.additional.IsShort

instance (order : Order) : Decidable order.IsShort :=
  decidable_of_iff (order.projectParams.IsShort ∧ order.transaction.additional.IsShort)
    ⟨fun both => ⟨both.1, both.2⟩, fun params => ⟨params.projectParams, params.additional⟩⟩

namespace IsShort

variable {order : Order} (short : order.IsShort)

include short

theorem isReadable : order.IsReadable :=
  ⟨short.projectParams.isReadable, short.additional.isReadable⟩

theorem mapNumbers_reread (amounts : Amount → Amount) :
    order.mapNumbers amounts Decimal.reread = order.mapNumbers amounts Decimal.normal := by
  unfold mapNumbers
  rw [short.projectParams.mapValues_reread, short.additional.mapValues_reread]

/-- **An order with short numbers is read back from the text of its document.** -/
theorem read?_text : Json.read? order.write.write >>= read?
    = some (order.mapNumbers Amount.reread Decimal.normal) := by
  rw [read?_text_of_isReadable short.isReadable, short.mapNumbers_reread]

end IsShort

end Order

end Paydesk
