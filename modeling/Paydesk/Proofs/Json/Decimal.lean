/-
**Doubles read as decimals.**

The text of a double is also read as a decimal. Its numeral has at most 17 digits, so without an
exponent a decimal has room for all of them; and with an exponent it has one digit before its point.

* `Numeral.toRat`: the number that a numeral stands for;
* `Decimal.readsAs_text`: **a numeral is read as the number that it stands for**;
* `Numeral.toRat_layout`, `Numeral.layout_places_le`, `Numeral.layout_isScientific`: the numeral of
  a double;
* `Binary64.written`, `Binary64.contains_written`: the number that a double is written as;
* `Binary64.readsAs_writeShort`: **the text of a double is read as its digits**.
-/

import Paydesk.Proofs.Binary64.Digits
import Paydesk.Proofs.Decimal.Scientific
import Paydesk.Proofs.Json.Double

namespace Paydesk

open Text (Stops digits)
open Decimal (limit maxScale ReadsAs)

namespace Numeral

/-- The number that a numeral stands for. -/
def toRat (numeral : Numeral) : ℚ :=
  (if numeral.negative then -1 else 1) * (numeral.significand * 10 ^ numeral.power)

/-- How many digits a numeral has after its point. -/
def places (numeral : Numeral) : Nat := (numeral.fraction.getD []).length

/-- A numeral with an exponent has one digit before its point, and not a zero. -/
def IsScientific (numeral : Numeral) : Prop :=
  10 ^ numeral.places ≤ numeral.significand ∧ numeral.significand < 10 * 10 ^ numeral.places

end Numeral

/-! ### Numerals as decimals -/

namespace Decimal

variable {numeral : Numeral} (formed : numeral.IsWellFormed) (small : numeral.significand < limit)
  (short : numeral.places ≤ maxScale)

include formed small short

/-- The digits of a numeral without its exponent are a decimal with as many places. -/
theorem exists_readNumeral : ∃ base,
    readNumeral ((if numeral.negative then ['-'] else [])
        ++ (numeral.whole ++ Numeral.fractionText numeral.fraction)) = .ok base
      ∧ base.toRat
        = (if numeral.negative then -1 else 1) * (numeral.significand / 10 ^ numeral.places) := by
  have read : readDigits 0 0 false false (numeral.whole ++ Numeral.fractionText numeral.fraction)
      = .ok (numeral.significand, numeral.places) := by
    obtain ⟨negative, whole, fraction, exponent⟩ := numeral
    have accepted := formed.digits
    simp only [Numeral.significand, Numeral.places, Numeral.allDigits] at accepted small short ⊢
    cases fraction with
    | none =>
      rw [Option.getD_none, List.append_nil] at accepted small ⊢
      exact (congrArg _ (List.append_nil whole)).trans
        (readDigits_whole formed.whole accepted small)
    | some fraction => exact readDigits_point formed.whole accepted small short
  obtain ⟨first, rest, shape⟩ := List.exists_cons_of_ne_nil formed.whole
  have digit : Text.isDigit first :=
    formed.digits first (List.mem_append_left _ (shape ▸ List.mem_cons_self))
  refine ⟨_, ?_, toRat_ofParts _ small short⟩
  rw [shape, List.cons_append] at read ⊢
  rw [readNumeral_signed digit]
  exact readSigned_eq _ read small short

omit small short in
/-- There is no exponent in a numeral before its exponent. -/
theorem isExponentMark_of_mem {char : Char} (member : char ∈ (if numeral.negative then ['-'] else [])
    ++ (numeral.whole ++ Numeral.fractionText numeral.fraction)) : isExponentMark char = false := by
  rw [List.mem_append, List.mem_append] at member
  rcases member with sign | whole | fraction
  · split at sign
    · rw [List.mem_singleton.mp sign]
      rfl
    · cases sign
  · exact isExponentMark_of_isDigit (formed.digits char (List.mem_append_left _ whole))
  · cases shape : numeral.fraction with
    | none =>
      rw [shape] at fraction
      cases fraction
    | some places =>
      rw [shape] at fraction
      rcases List.mem_cons.mp fraction with rfl | digit
      · rfl
      · refine isExponentMark_of_isDigit (formed.digits char (List.mem_append_right _ ?_))
        rw [shape]
        exact digit

/-- **A numeral is read as the number that it stands for.** -/
theorem readsAs_text (scientific : numeral.exponent.isSome → numeral.IsScientific) {text : String}
    (written : text.toList = (if numeral.negative then ['-'] else []) ++ numeral.text) :
    ReadsAs numeral.toRat (read text) := by
  obtain ⟨base, base_read, base_eq⟩ := exists_readNumeral formed small short
  have plain : ∀ char ∈ (if numeral.negative then ['-'] else [])
      ++ (numeral.whole ++ Numeral.fractionText numeral.fraction), (!isExponentMark char) = true :=
    fun char member => (Bool.not_eq_true' _).mpr (isExponentMark_of_mem formed member)
  have unit : (0 : ℚ) < 10 ^ numeral.places := by positivity
  have value_eq : numeral.toRat = base.toRat * 10 ^ numeral.exponent.getD 0 := by
    have power_eq : numeral.power = numeral.exponent.getD 0 - numeral.places := rfl
    rw [base_eq, Numeral.toRat, power_eq, zpow_sub₀ (by norm_num), zpow_natCast]
    ring
  rw [Numeral.text, ← List.append_assoc numeral.whole, ← List.append_assoc] at written
  unfold read
  simp only [written]
  cases exponent_eq : numeral.exponent with
  | none =>
    have nothing : Numeral.exponentText none = [] := rfl
    rw [nothing, Text.dropWhile_run plain Text.stops_nil, List.append_nil]
    simp only [base_read]
    refine readsAs_of_toRat_eq ?_
    rw [value_eq, exponent_eq, Option.getD_none, zpow_zero, mul_one]
  | some exponent =>
    have stops : Stops (!isExponentMark ·) (Numeral.exponentText (some exponent)) :=
      Text.stops_cons.mpr rfl
    obtain ⟨least, most⟩ := scientific (exponent_eq ▸ rfl)
    have least_rat : (10 : ℚ) ^ numeral.places ≤ numeral.significand := by exact_mod_cast least
    have most_rat : (numeral.significand : ℚ) < 10 * 10 ^ numeral.places := by exact_mod_cast most
    have size : |base.toRat| = numeral.significand / 10 ^ numeral.places := by
      have positive : (0 : ℚ) ≤ numeral.significand / 10 ^ numeral.places := by positivity
      rw [base_eq, abs_signed _ positive]
    rw [Text.dropWhile_run plain stops, Text.takeWhile_run plain stops, value_eq, exponent_eq]
    refine readsAs_readScientific ?_ ?_ base_read exponent
    · rw [size, le_div_iff₀ unit, one_mul]
      exact least_rat
    · rw [size, div_lt_iff₀ unit]
      exact most_rat

end Decimal

/-! ### The numeral of a double -/

namespace Numeral

variable (negative : Bool) (power : ℤ) {point : Nat}

theorem toRat_layout (point : Nat) : (layout negative point power).toRat
    = (if negative then -1 else 1) * (point * 10 ^ power) := by
  unfold toRat
  rw [layout_negative]
  rcases layout_spec negative power point with
    ⟨-, significand_eq, power_eq⟩ | ⟨positive, -, significand_eq, power_eq⟩
  · rw [significand_eq, power_eq]
  · obtain ⟨count, rfl⟩ := Int.eq_ofNat_of_zero_le positive
    rw [significand_eq, power_eq, Int.toNat_natCast, zpow_natCast, pow_succ]
    push_cast
    rw [zpow_neg_one]
    ring

section Bounds

variable (small : point < 10 ^ 17)

include small

theorem length_digits_le : (digits point).length ≤ 17 :=
  (Nat.length_toDigits_le_iff (by decide) (by decide)).mpr small

theorem layout_significand_lt : (layout negative point power).significand < 10 ^ 17 := by
  rcases layout_spec negative power point with
    ⟨-, significand_eq, -⟩ | ⟨positive, short, significand_eq, -⟩
  · rw [significand_eq]
    exact small
  · obtain ⟨count, rfl⟩ := Int.eq_ofNat_of_zero_le positive
    rw [significand_eq, Int.toNat_natCast]
    calc point * 10 ^ (count + 1)
        < 10 ^ (digits point).length * 10 ^ (count + 1) :=
          Nat.mul_lt_mul_of_pos_right (Text.lt_pow_length_digits point) (Nat.pow_pos (by decide))
      _ = 10 ^ ((digits point).length + (count + 1)) := (pow_add _ _ _).symm
      _ ≤ 10 ^ 17 := Nat.pow_le_pow_right (by decide) (by omega)

theorem layout_places_le : (layout negative point power).places ≤ maxScale := by
  have few := length_digits_le small
  have most : maxScale = 28 := rfl
  unfold layout places
  simp only
  split_ifs <;> simp <;> omega

end Bounds

/-- The numeral of a double has an exponent only after one digit before its point. -/
theorem layout_isScientific (some_point : 0 < point)
    (exponent : (layout negative point power).exponent.isSome) :
    (layout negative point power).IsScientific := by
  have value : Nat.ofDigitChars 10 (digits point) 0 = point := Nat.ofDigitChars_ten_toDigits
  have some_char := List.length_pos_of_ne_nil (Text.digits_ne_nil point)
  obtain ⟨fewer, length_eq⟩ := Nat.exists_eq_add_of_lt some_char
  rw [zero_add] at length_eq
  have least := Text.pow_length_digits_le some_point length_eq
  have most := Text.lt_pow_length_digits point
  rw [length_eq, pow_succ, mul_comm] at most
  suffices (layout negative point power).significand = point
      ∧ (layout negative point power).places = fewer by
    unfold IsScientific
    rw [this.1, this.2]
    exact ⟨least, most⟩
  unfold layout at exponent ⊢
  simp only at exponent ⊢
  split_ifs at exponent ⊢ with whole split small single
  · cases exponent
  · cases exponent
  · cases exponent
  · rw [length_eq] at single
    simp only [significand, places, allDigits, Option.getD_none, List.append_nil, List.length_nil]
    exact ⟨value, by omega⟩
  · simp only [significand, places, allDigits, Option.getD_some, List.take_append_drop,
      List.length_drop]
    exact ⟨value, by omega⟩

end Numeral

/-! ### Doubles -/

namespace Binary64

/-- The number that a double is written as: its fewest digits, with their power of ten. -/
def written (number : Binary64) : ℚ :=
  if number.isZero then 0
  else (if number.negative then -1 else 1)
    * ((number.shortest .toEven).1 * 10 ^ (number.shortest .toEven).2)

/-- A double other than zero is written as a number that rounds to it. -/
theorem contains_written {number : Binary64} (some_mantissa : 0 < number.mantissa)
    (small : number.mantissa < 2 ^ 53) : number.interval.Contains |number.written| := by
  have nonzero : number.isZero = false := beq_eq_false_iff_ne.mpr some_mantissa.ne'
  obtain ⟨point, power, shortest, -, -, contains⟩ := shortest_spec some_mantissa small .toEven
  have magnitude : |number.written| = point * 10 ^ power := by
    have positive : (0 : ℚ) ≤ point * 10 ^ power := by positivity
    unfold written
    rw [nonzero, shortest, if_neg Bool.false_ne_true, Decimal.abs_signed _ positive]
  rw [magnitude]
  exact contains

/-- **The text of a double is read as its digits.** -/
theorem readsAs_writeShort {number : Binary64} (small : number.mantissa < 2 ^ 53) :
    ReadsAs number.written (Decimal.read number.writeShort) := by
  unfold written
  cases nothing : number.isZero with
  | true =>
    have text : Decimal.read number.writeShort
        = .ok (Decimal.ofParts number.negative 0 1 (by decide) (by decide)) := by
      unfold writeShort Decimal.read
      simp only [nothing, if_true, String.toList_ofList]
      cases number.negative <;> rfl
    rw [text, if_pos rfl]
    refine Decimal.readsAs_of_toRat_eq ?_
    rw [Decimal.toRat_ofParts, Nat.cast_zero, zero_div, mul_zero]
  | false =>
    have some_mantissa := Nat.pos_of_ne_zero (beq_eq_false_iff_ne.mp nothing)
    obtain ⟨point, power, shortest, last, few, -⟩ := shortest_spec some_mantissa small .toEven
    have some_point : 0 < point := by omega
    rw [shortest, if_neg Bool.false_ne_true, ← Numeral.toRat_layout]
    refine Decimal.readsAs_text (Numeral.layout_isWellFormed _ _ some_point)
      ((Numeral.layout_significand_lt _ _ few).trans_le (by decide))
      (Numeral.layout_places_le _ _ few)
      (Numeral.layout_isScientific _ _ some_point) ?_
    rw [Numeral.layout_negative]
    exact toList_writeShort nothing shortest

end Binary64

end Paydesk
