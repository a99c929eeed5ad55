/-
**Doubles read back.**

A double is written with the fewest digits that stand for it, in one of four layouts. Each layout is
a numeral with the same digits and the same power of ten, which a reader finds as it was written;
and where the digits fit a double and the power of ten is one, the reader rounds once and finds the
same double.

* `Numeral.text`, `Numeral.significand`, `Numeral.power`: a numeral and what it stands for;
* `readMagnitude?_text`: **a numeral is read as it was written**;
* `Numeral.float?_eq`: the double of a numeral, from what it stands for;
* `Numeral.scaled?_eq`: a significand over a power of ten is rounded once;
* `layout_spec`, `Binary64.toList_writeShort`: **a double is written as a numeral of its digits**;
* `readBack?_eq`: **a double with at most 15 digits is read back**.
-/

import Paydesk.Proofs.Binary64.Decimal
import Paydesk.Proofs.Binary64.Shortest
import Paydesk.Proofs.Decimal.Text
import Paydesk.Proofs.Json.Text

namespace Paydesk

open Text (Stops digits)

/-! ### Numerals -/

namespace Numeral

/-- A fraction as it is written. -/
def fractionText (fraction : Option (List Char)) : List Char := fraction.elim [] ('.' :: ·)

/-- An exponent as it is written. -/
def exponentText (exponent : Option ℤ) : List Char :=
  exponent.elim [] fun power => 'e' :: (Text.writeInt power).toList

/-- A numeral as it is written, without its sign. -/
def text (numeral : Numeral) : List Char :=
  numeral.whole ++ (fractionText numeral.fraction ++ exponentText numeral.exponent)

/-- The digits of a numeral on both sides of its point. -/
def allDigits (numeral : Numeral) : List Char := numeral.whole ++ numeral.fraction.getD []

/-- What the digits of a numeral stand for without its point. -/
def significand (numeral : Numeral) : Nat := Nat.ofDigitChars 10 numeral.allDigits 0

/-- The power of ten of a numeral's last digit. -/
def power (numeral : Numeral) : ℤ := numeral.exponent.getD 0 - (numeral.fraction.getD []).length

/-- A numeral with a fraction or an exponent that documents allow. -/
structure IsWellFormed (numeral : Numeral) : Prop where
  digits : ∀ char ∈ numeral.allDigits, Text.isDigit char
  whole : numeral.whole ≠ []
  unpadded : 1 < numeral.whole.length → numeral.whole.head? ≠ some '0'
  fraction : ∀ places ∈ numeral.fraction, places ≠ []
  notWhole : (numeral.fraction.isSome || numeral.exponent.isSome) = true

end Numeral

namespace Json

theorem spanDigits_run {run rest : List Char} (accepted : ∀ char ∈ run, Text.isDigit char)
    (stops : Stops Text.isDigit rest) : spanDigits (run ++ rest) = (run, rest) := by
  unfold spanDigits
  rw [Text.takeWhile_run accepted stops, Text.dropWhile_run accepted stops]

theorem readPower?_digits (negative : Bool) (magnitude : Nat) :
    readPower? negative (digits magnitude)
      = some (some (if negative then -(magnitude : ℤ) else magnitude), []) := by
  have accepted : ∀ char ∈ digits magnitude, Text.isDigit char :=
    fun _ => Text.isDigit_of_mem_digits
  have span := spanDigits_run accepted Text.stops_nil
  have some_digit : (digits magnitude).isEmpty = false :=
    List.isEmpty_eq_false_iff.mpr (Text.digits_ne_nil _)
  rw [List.append_nil] at span
  unfold readPower?
  simp only [span, some_digit, Bool.false_eq_true, if_false, Text.natOfDigits?_digits]
  rfl

/-- An exponent is read as it was written. -/
theorem readExponent?_text (exponent : Option ℤ) :
    readExponent? (Numeral.exponentText exponent) = some (exponent, []) := by
  cases exponent with
  | none => rfl
  | some power =>
    change readExponent? ('e' :: (Text.writeInt power).toList) = _
    rcases Int.lt_or_le power 0 with negative | nonneg
    · have signed : readExponent? ('e' :: '-' :: digits power.natAbs)
          = readPower? true (digits power.natAbs) := rfl
      have sign : -(power.natAbs : ℤ) = power := by omega
      rw [Text.toList_writeInt_of_neg negative, signed, readPower?_digits, if_pos rfl, sign]
    · have unsigned (more : List Char) :
          digits power.natAbs ≠ '-' :: more ∧ digits power.natAbs ≠ '+' :: more :=
        ⟨Text.digits_ne_cons rfl _ _, Text.digits_ne_cons rfl _ _⟩
      have sign : (power.natAbs : ℤ) = power := by omega
      rw [Text.toList_writeInt_of_nonneg nonneg, readExponent?_unsigned rfl unsigned,
        readPower?_digits, if_neg Bool.false_ne_true, sign]

theorem stops_exponentText (exponent : Option ℤ) :
    Stops Text.isDigit (Numeral.exponentText exponent) := by
  cases exponent with
  | none => exact Text.stops_nil
  | some power => exact Text.stops_cons.mpr (by decide)

/-- A fraction is read as it was written. -/
theorem readFraction?_text {fraction : Option (List Char)}
    (accepted : ∀ char ∈ fraction.getD [], Text.isDigit char)
    (some_place : ∀ places ∈ fraction, places ≠ []) (exponent : Option ℤ) :
    readFraction? (Numeral.fractionText fraction ++ Numeral.exponentText exponent)
      = some (fraction, Numeral.exponentText exponent) := by
  cases fraction with
  | none => cases exponent <;> rfl
  | some chars =>
    have nonempty : chars.isEmpty = false := List.isEmpty_eq_false_iff.mpr (some_place chars rfl)
    have span : spanDigits (chars ++ Numeral.exponentText exponent) = _ :=
      spanDigits_run accepted (stops_exponentText exponent)
    change readFraction? ('.' :: (chars ++ Numeral.exponentText exponent)) = _
    rw [readFraction?]
    simp only [span, nonempty, Bool.false_eq_true, if_false]

/-- **A numeral is read as it was written.** -/
theorem readMagnitude?_text {numeral : Numeral} (formed : numeral.IsWellFormed) :
    readMagnitude? numeral.negative numeral.text = numeral.value?.map (·, []) := by
  have whole_digits := fun char member => formed.digits char (List.mem_append_left _ member)
  have fraction_digits := fun char member => formed.digits char (List.mem_append_right _ member)
  have whole_read : spanDigits numeral.text
      = (numeral.whole,
        Numeral.fractionText numeral.fraction ++ Numeral.exponentText numeral.exponent) := by
    refine spanDigits_run whole_digits ?_
    cases numeral.fraction with
    | none => exact stops_exponentText numeral.exponent
    | some chars => exact Text.stops_cons.mpr (by decide)
  have accepted : (numeral.whole.isEmpty
      || (decide (1 < numeral.whole.length) && numeral.whole.head? == some '0')) = false := by
    rw [Bool.or_eq_false_iff, Bool.and_eq_false_imp]
    refine ⟨List.isEmpty_eq_false_iff.mpr formed.whole, fun long => ?_⟩
    exact beq_eq_false_iff_ne.mpr (formed.unpadded (of_decide_eq_true long))
  unfold readMagnitude?
  simp only [whole_read, accepted, readFraction?_text fraction_digits formed.fraction,
    readExponent?_text, Bool.false_eq_true, if_false, Option.pure_def, Option.bind_eq_bind,
    Option.bind_some]
  exact Option.map_eq_bind.symm

end Json

/-! ### Numerals as doubles -/

namespace Numeral

/-- Digits are added to a significand while they fit. -/
theorem takeDigits_eq {chars : List Char} (accepted : ∀ char ∈ chars, Text.isDigit char)
    (start : Nat) (fits : Nat.ofDigitChars 10 chars start ≤ maxSignificand) :
    takeDigits start chars = (Nat.ofDigitChars 10 chars start, 0) := by
  induction chars generalizing start with
  | nil => rfl
  | cons char chars hypothesis =>
    rw [List.forall_mem_cons] at accepted
    have digit := Text.digitValue?_eq_some accepted.1
    rw [Nat.ofDigitChars_cons, Nat.mul_comm] at fits ⊢
    have room : start * 10 + (char.toNat - '0'.toNat) ≤ maxSignificand :=
      (Decimal.le_ofDigitChars chars _).trans fits
    unfold takeDigits
    simp only [digit, Option.getD_some, if_pos room]
    exact hypothesis accepted.2 _ fits

/-- The double of a numeral, from what it stands for. -/
theorem float?_eq {numeral : Numeral} (formed : numeral.IsWellFormed)
    (fits : numeral.significand ≤ maxSignificand) :
    numeral.float? = (scaled? numeral.significand numeral.power).map fun magnitude =>
      if numeral.negative then magnitude.neg else magnitude := by
  obtain ⟨negative, whole, fraction, exponent⟩ := numeral
  obtain ⟨all_digits, -, -, -, -⟩ := formed
  simp only [significand, power, allDigits, Nat.ofDigitChars_append, List.mem_append]
    at all_digits fits ⊢
  have whole_fits := (Decimal.le_ofDigitChars (fraction.getD []) _).trans fits
  have whole_read := takeDigits_eq (fun char member => all_digits char (Or.inl member)) 0 whole_fits
  have fraction_read := takeDigits_eq (fun char member => all_digits char (Or.inr member)) _ fits
  unfold float?
  cases fraction with
  | none =>
    simp only [whole_read, Option.getD_none, Nat.ofDigitChars_nil, List.length_nil, Nat.cast_zero,
      zero_add, sub_zero]
    exact Option.map_eq_bind.symm
  | some chars =>
    simp only [Option.getD_some] at fraction_read
    simp only [whole_read, fraction_read, Option.getD_some, Nat.cast_zero, Nat.sub_zero, zero_sub,
      neg_add_eq_sub]
    exact Option.map_eq_bind.symm

/-- **A significand over a power of ten is rounded once**, if it is a double with zeros after it. -/
theorem scaled?_eq {count power : Nat} (zeros : Nat) {x : ℚ} (some_count : 0 < count)
    (small : count < 2 ^ 53) (short : zeros ≤ 64) (some_power : 0 < power) (few : power ≤ 22)
    {number : Binary64} (nearest : number.IsNearest x)
    (equal : ((count * 2 ^ zeros : ℕ) : ℚ) / 10 ^ power = x) :
    scaled? (count * 2 ^ zeros) (-(power : ℤ)) = some number.magnitude := by
  obtain ⟨significand, found, stands⟩ := Binary64.ofNat?_stands small short
  obtain ⟨ten, ten_found, ten_stands⟩ := Binary64.powerOfTen?_stands few
  have ten_pos : 0 < ten.value := by
    rw [ten_stands.value_eq]
    positivity
  have some_significand : significand.isZero = false := by
    refine beq_eq_false_iff_ne.mpr fun none => ?_
    have value_eq := stands.value_eq
    rw [Binary64.value, none, Nat.cast_zero, zero_mul] at value_eq
    have positive : 0 < count * 2 ^ zeros := Nat.mul_pos some_count (Nat.pow_pos (by decide))
    exact positive.ne (by exact_mod_cast value_eq)
  have quotient : significand.div? ten = some number.magnitude := by
    rw [← equal, ← stands.value_eq, ← ten_stands.value_eq] at nearest
    obtain ⟨num, den, some_den, same, divided⟩ :=
      Binary64.div?_spec stands.unsigned ten_stands.unsigned ten_pos
    rw [divided, nearest.found some_den same]
  have below : ¬(0 : ℤ) ≤ -(power : ℤ) := by omega
  have power_eq : (-(-(power : ℤ))).toNat = power := by omega
  have within : power ≤ 308 := by omega
  unfold scaled?
  simp only [found, Option.bind_eq_bind, Option.bind_some, some_significand, Bool.false_eq_true,
    if_false, below, power_eq]
  unfold divideByTen
  simp only [within, if_true, ten_found, Option.bind_eq_bind, Option.bind_some, quotient]

end Numeral

/-! ### How doubles are written -/

namespace Numeral

/-- The numeral that a double is written as, from its digits and their power of ten. -/
def layout (negative : Bool) (point : Nat) (power : ℤ) : Numeral :=
  let chars := digits point
  let places : ℤ := (chars.length : ℤ) + power
  if 0 ≤ power ∧ places ≤ 16 then
    ⟨negative, chars ++ List.replicate power.toNat '0', some ['0'], none⟩
  else if 0 < places ∧ places ≤ 16 then
    ⟨negative, chars.take places.toNat, some (chars.drop places.toNat), none⟩
  else if -5 < places ∧ places ≤ 0 then
    ⟨negative, ['0'], some (List.replicate (-places).toNat '0' ++ chars), none⟩
  else if chars.length = 1 then ⟨negative, chars, none, some (places - 1)⟩
  else ⟨negative, chars.take 1, some (chars.drop 1), some (places - 1)⟩

variable (negative : Bool) (power : ℤ)

@[simp] theorem layout_negative (point : Nat) : (layout negative point power).negative = negative := by
  unfold layout
  simp only
  split_ifs <;> rfl

theorem layout_isWellFormed {point : Nat} (some_point : 0 < point) :
    (layout negative point power).IsWellFormed := by
  have accepted : ∀ char ∈ digits point, Text.isDigit char := fun _ => Text.isDigit_of_mem_digits
  have zeros (count : Nat) : ∀ char ∈ List.replicate count '0', Text.isDigit char := by
    intro char member
    rw [List.eq_of_mem_replicate member]
    rfl
  have unpadded : (digits point).head? ≠ some '0' := fun zero =>
    some_point.ne' (Text.eq_zero_of_head?_digits zero)
  have some_char := List.length_pos_of_ne_nil (Text.digits_ne_nil point)
  unfold layout
  simp only
  split_ifs with whole split small single
  · refine ⟨?_, by simp [Text.digits_ne_nil], fun _ => ?_, by simp, rfl⟩
    · simp only [allDigits, Option.getD_some, List.mem_append, List.mem_singleton]
      rintro char ((inside | zero) | rfl)
      · exact accepted char inside
      · exact zeros _ char zero
      · rfl
    · rwa [List.head?_append_of_ne_nil _ (Text.digits_ne_nil point)]
  · have before : 0 < ((digits point).length + power).toNat := by omega
    have after : ((digits point).length + power).toNat < (digits point).length := by omega
    refine ⟨?_, ?_, fun _ => ?_, ?_, rfl⟩
    · simpa only [allDigits, Option.getD_some, List.take_append_drop] using accepted
    · rw [← List.length_pos_iff, List.length_take]
      omega
    · rwa [List.head?_take, if_neg before.ne']
    · rintro places ⟨⟩
      rw [← List.length_pos_iff, List.length_drop]
      omega
  · refine ⟨?_, by simp, by simp, ?_, rfl⟩
    · simp only [allDigits, Option.getD_some, List.mem_append, List.mem_singleton]
      rintro char (rfl | zero | inside)
      · rfl
      · exact zeros _ char zero
      · exact accepted char inside
    · rintro places ⟨⟩
      simp [Text.digits_ne_nil]
  · refine ⟨?_, Text.digits_ne_nil point, fun _ => unpadded, by simp, rfl⟩
    simpa only [allDigits, Option.getD_none, List.append_nil] using accepted
  · refine ⟨?_, ?_, fun long => ?_, ?_, rfl⟩
    · simpa only [allDigits, Option.getD_some, List.take_append_drop] using accepted
    · rw [← List.length_pos_iff, List.length_take]
      omega
    · rw [List.length_take] at long
      omega
    · rintro places ⟨⟩
      rw [← List.length_pos_iff, List.length_drop]
      omega

/-- **The numeral of a double stands for its digits and their power of ten**, with one zero after
the point where they are whole and are written without an exponent. -/
theorem layout_spec (point : Nat) :
    ((0 ≤ power → 16 < ((digits point).length : ℤ) + power)
        ∧ (layout negative point power).significand = point
        ∧ (layout negative point power).power = power)
      ∨ (0 ≤ power ∧ ((digits point).length : ℤ) + power ≤ 16
        ∧ (layout negative point power).significand = point * 10 ^ (power.toNat + 1)
        ∧ (layout negative point power).power = -1) := by
  have value : Nat.ofDigitChars 10 (digits point) 0 = point := Nat.ofDigitChars_ten_toDigits
  have some_char := List.length_pos_of_ne_nil (Text.digits_ne_nil point)
  unfold layout
  simp only
  split_ifs with whole split small single
  · refine Or.inr ⟨whole.1, whole.2, ?_, rfl⟩
    have zeros : digits point ++ List.replicate power.toNat '0' ++ ['0']
        = digits point ++ List.replicate (power.toNat + 1) '0' := by
      rw [List.append_assoc, List.replicate_succ']
    simp only [significand, allDigits, Option.getD_some]
    rw [zeros, Nat.ofDigitChars_append, value, Nat.ofDigitChars_replicate_zero, Nat.mul_comm]
  · refine Or.inl ⟨by omega, ?_, ?_⟩
    · simp only [significand, allDigits, Option.getD_some, List.take_append_drop]
      exact value
    · simp only [Numeral.power, Option.getD_none, Option.getD_some, List.length_drop]
      omega
  · refine Or.inl ⟨by omega, ?_, ?_⟩
    · simp only [significand, allDigits, Option.getD_some]
      rw [Nat.ofDigitChars_append, Nat.ofDigitChars_append, Nat.ofDigitChars_replicate_zero]
      exact value
    · simp only [Numeral.power, Option.getD_none, Option.getD_some, List.length_append,
        List.length_replicate]
      omega
  · refine Or.inl ⟨by omega, ?_, ?_⟩
    · simp only [significand, allDigits, Option.getD_none, List.append_nil]
      exact value
    · simp only [Numeral.power, Option.getD_none, Option.getD_some, List.length_nil]
      omega
  · refine Or.inl ⟨by omega, ?_, ?_⟩
    · simp only [significand, allDigits, Option.getD_some, List.take_append_drop]
      exact value
    · simp only [Numeral.power, Option.getD_some, List.length_drop]
      omega

end Numeral

/-- **A double is written as the numeral of its digits.** -/
theorem Binary64.toList_writeShort {number : Binary64} {point : Nat} {power : ℤ}
    (some_digit : number.isZero = false) (shortest : number.shortest .toEven = (point, power)) :
    number.writeShort.toList = (if number.negative then ['-'] else [])
      ++ (Numeral.layout number.negative point power).text := by
  unfold writeShort Numeral.layout
  simp only [some_digit, shortest, Bool.false_eq_true, if_false, String.toList_ofList]
  have some_char := Text.digits_ne_nil point
  generalize digits point = chars at some_char
  have signed (magnitude : List Char) : (if number.negative then '-' :: magnitude else magnitude)
      = (if number.negative then ['-'] else []) ++ magnitude := by
    cases number.negative <;> rfl
  rw [signed]
  congr 1
  split_ifs with whole split small single
  · simp [Numeral.text, Numeral.fractionText, Numeral.exponentText]
  · simp [Numeral.text, Numeral.fractionText, Numeral.exponentText]
  · simp [Numeral.text, Numeral.fractionText, Numeral.exponentText]
  · obtain ⟨char, rfl⟩ := List.length_eq_one_iff.mp single
    simp [Numeral.text, Numeral.fractionText, Numeral.exponentText]
  · rcases chars with _ | ⟨first, _ | ⟨second, rest⟩⟩
    · exact absurd rfl some_char
    · exact absurd rfl single
    · simp [Numeral.text, Numeral.fractionText, Numeral.exponentText]

namespace Json

theorem readNumber?_signed {numeral : Numeral} (formed : numeral.IsWellFormed) :
    readNumber? ((if numeral.negative then ['-'] else []) ++ numeral.text)
      = numeral.float?.map (.float ·, []) := by
  have value : numeral.value? = numeral.float?.map .float := by
    unfold Numeral.value?
    simp only [formed.notWhole, if_true]
  have read := readMagnitude?_text formed
  rw [value, Option.map_map] at read
  cases sign : numeral.negative with
  | true =>
    rw [sign] at read
    exact read
  | false =>
    rw [sign] at read
    obtain ⟨first, rest, shape⟩ := List.exists_cons_of_ne_nil formed.whole
    have digit : Text.isDigit first := by
      refine formed.digits first ?_
      rw [Numeral.allDigits, shape]
      exact List.mem_cons_self
    obtain ⟨more, starts⟩ : ∃ more, numeral.text = first :: more :=
      ⟨_, by rw [Numeral.text, shape, List.cons_append]⟩
    rw [if_neg Bool.false_ne_true, List.nil_append, starts, readNumber?, ← starts]
    · exact read
    · intro others same
      rw [(List.cons.inj same).1] at digit
      exact absurd digit (by decide)

section ReadBack

variable {number : Binary64} {x : ℚ} {point : Nat} {power : ℤ} (nearest : number.IsNearest x)
  (multiple : x = point * 10 ^ power) (last : point % 10 ≠ 0) (small : x < 10 ^ 15)

include multiple last small in
/-- A number below `10 ^ 15` has at most 15 places before its point. -/
theorem length_digits_add_le : ((digits point).length : ℤ) + power ≤ 15 := by
  obtain ⟨least, -⟩ := Binary64.digitCount_spec (by omega : 0 < point)
  have count_eq : Binary64.decimalPlaces.digitCount point = (digits point).length := rfl
  have below : (10 : ℚ) ^ (((digits point).length : ℤ) - 1 + power) < 10 ^ (15 : ℤ) :=
    calc (10 : ℚ) ^ (((digits point).length : ℤ) - 1 + power)
        = 10 ^ (((digits point).length : ℤ) - 1) * 10 ^ power := zpow_add₀ (by norm_num) _ _
      _ ≤ point * 10 ^ power := by
        rw [count_eq] at least
        gcongr
      _ < 10 ^ (15 : ℤ) := multiple ▸ small
  have exponents := (zpow_lt_zpow_iff_right₀ (by norm_num)).mp below
  omega

include nearest multiple last small in
/-- The numeral of a double with at most 15 digits is read as the double's magnitude. -/
theorem scaled?_layout (digits_small : point < 10 ^ 15) (few : -22 ≤ power) (negative : Bool) :
    (Numeral.layout negative point power).significand ≤ Numeral.maxSignificand
      ∧ Numeral.scaled? (Numeral.layout negative point power).significand
          (Numeral.layout negative point power).power = some number.magnitude := by
  have some_point : 0 < point := by omega
  have places := length_digits_add_le multiple last small
  rcases Numeral.layout_spec negative power point with
    ⟨long, significand_eq, power_eq⟩ | ⟨above, -, significand_eq, power_eq⟩
  · obtain ⟨count, count_eq⟩ := Int.eq_ofNat_of_zero_le (show 0 ≤ -power by omega)
    have exponent_eq : power = -(count : ℤ) := by omega
    rw [significand_eq, power_eq]
    refine ⟨by unfold Numeral.maxSignificand; rw [Nat.pow_eq]; omega, ?_⟩
    have equal : ((point * 2 ^ 0 : ℕ) : ℚ) / 10 ^ count = x := by
      rw [multiple, exponent_eq, zpow_neg, zpow_natCast, div_eq_mul_inv, pow_zero, Nat.mul_one]
    rw [exponent_eq, ← Nat.mul_one point, ← Nat.pow_zero 2]
    exact Numeral.scaled?_eq 0 some_point (by omega) (by decide) (by omega) (by omega) nearest equal
  · obtain ⟨count, count_eq⟩ := Int.eq_ofNat_of_zero_le above
    have whole : x = (point * 10 ^ count : ℕ) := by
      rw [multiple, count_eq]
      push_cast
      rw [zpow_natCast]
    have whole_small : point * 10 ^ count < 10 ^ 15 := by
      rw [whole] at small
      exact_mod_cast small
    have tenfold : point * 10 ^ (power.toNat + 1) = 5 * (point * 10 ^ count) * 2 ^ 1 := by
      rw [count_eq, Int.toNat_natCast, pow_succ]
      ring
    rw [significand_eq, power_eq, tenfold]
    refine ⟨by unfold Numeral.maxSignificand; rw [Nat.pow_eq]; omega, ?_⟩
    have some_whole : 0 < point * 10 ^ count := Nat.mul_pos some_point (Nat.pow_pos (by decide))
    have equal : ((5 * (point * 10 ^ count) * 2 ^ 1 : ℕ) : ℚ) / 10 ^ 1 = x := by
      rw [whole]
      push_cast
      ring
    exact Numeral.scaled?_eq 1 (by omega) (by omega) (by decide) (by decide) (by decide) nearest equal

include nearest multiple last small in
/-- **A double with at most 15 digits is read back.** -/
theorem readBack?_eq (digits_small : point < 10 ^ 15) (few : -22 ≤ power) :
    readBack? number = some (.float number) := by
  have some_digit : number.isZero = false :=
    beq_eq_false_iff_ne.mpr nearest.rounds.mantissa_pos.ne'
  have formed := Numeral.layout_isWellFormed number.negative power (by omega : 0 < point)
  obtain ⟨fits, scaled⟩ := scaled?_layout nearest multiple last small digits_small few number.negative
  have float := Numeral.float?_eq formed fits
  rw [scaled, Option.map_some, Numeral.layout_negative, number.signed_magnitude] at float
  have read := readNumber?_signed formed
  rw [float, Option.map_some, Numeral.layout_negative] at read
  unfold readBack?
  rw [Binary64.toList_writeShort some_digit (nearest.rounds.shortest_eq multiple last digits_small _),
    read]
  rfl

end ReadBack

end Json

end Paydesk
