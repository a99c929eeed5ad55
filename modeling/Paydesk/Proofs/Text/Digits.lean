/-
**Digits read back.**

A reader of numbers takes the digits that come first. Where something else follows, that is the
whole numeral that was written:

* `takeWhile_run`, `dropWhile_run`: a run of accepted characters before one that is not accepted;
* `natOfDigits?_digits`, `natOfDigits?_padded`: **digits stand for the number they were made of**,
  with or without zeros before them;
* `foldl_toDigits`: the same in any base, for any reader of single digits;
* `length_padded`: how many characters a number takes.
-/

import Mathlib.Algebra.Group.Nat.Defs
import Mathlib.Data.List.Basic
import Paydesk.Text.Integer

namespace Paydesk.Text

/-! ### Runs of characters -/

section Runs

variable {accept : Char → Bool} {run rest : List Char}

/-- No run of accepted characters goes on here. -/
def Stops (accept : Char → Bool) (rest : List Char) : Prop :=
  ∀ char ∈ rest.head?, accept char = false

@[simp] theorem stops_nil : Stops accept [] := by simp [Stops]

@[simp] theorem stops_cons {char : Char} : Stops accept (char :: rest) ↔ accept char = false := by
  simp [Stops]

theorem Stops.takeWhile_eq (stops : Stops accept rest) : rest.takeWhile accept = [] := by
  cases rest with
  | nil => rfl
  | cons char tail => exact List.takeWhile_cons_of_neg (by simp [stops_cons.mp stops])

theorem Stops.dropWhile_eq (stops : Stops accept rest) : rest.dropWhile accept = rest := by
  cases rest with
  | nil => rfl
  | cons char tail => exact List.dropWhile_cons_of_neg (by simp [stops_cons.mp stops])

theorem takeWhile_run (accepted : ∀ char ∈ run, accept char) (stops : Stops accept rest) :
    (run ++ rest).takeWhile accept = run := by
  rw [List.takeWhile_append_of_pos accepted, stops.takeWhile_eq, List.append_nil]

theorem dropWhile_run (accepted : ∀ char ∈ run, accept char) (stops : Stops accept rest) :
    (run ++ rest).dropWhile accept = rest := by
  rw [List.dropWhile_append_of_pos accepted, stops.dropWhile_eq]

theorem drop_length_takeWhile (accept : Char → Bool) (chars : List Char) :
    chars.drop (chars.takeWhile accept).length = chars.dropWhile accept := by
  have parts := List.takeWhile_append_dropWhile (p := accept) (l := chars)
  generalize chars.takeWhile accept = run at parts
  generalize chars.dropWhile accept = rest at parts
  rw [← parts, List.drop_left]

end Runs

/-! ### Single digits -/

theorem digitValue?_eq_some {char : Char} (digit : isDigit char) :
    digitValue? char = some (char.toNat - '0'.toNat) := by
  unfold isDigit at digit
  rw [Bool.and_eq_true, decide_eq_true_iff, decide_eq_true_iff] at digit
  exact if_pos digit

theorem isSome_digitValue? (char : Char) : (digitValue? char).isSome = isDigit char := by
  unfold digitValue? isDigit
  split <;> simp_all

theorem toNat_of_isDigit {char : Char} (digit : isDigit char) :
    48 ≤ char.toNat ∧ char.toNat ≤ 57 := by
  unfold isDigit at digit
  rw [Bool.and_eq_true, decide_eq_true_iff, decide_eq_true_iff] at digit
  exact digit

theorem digitValue?_digitChar : ∀ digit < 10, digitValue? digit.digitChar = some digit := by
  decide

/-! ### Numbers -/

/-- The number of a list of digits is what the digits stand for by position. -/
theorem natOfDigits?_eq {chars : List Char} (digits : ∀ char ∈ chars, isDigit char) :
    natOfDigits? chars = some (Nat.ofDigitChars 10 chars 0) := by
  suffices ∀ start, chars.foldl (fun number char => do
      return (← number) * 10 + (← digitValue? char)) (some start)
        = some (Nat.ofDigitChars 10 chars start) from this 0
  induction chars with
  | nil => intro start; rfl
  | cons char rest hypothesis =>
    intro start
    rw [List.forall_mem_cons] at digits
    rw [List.foldl_cons, Nat.ofDigitChars_cons, digitValue?_eq_some digits.1, Nat.mul_comm]
    exact hypothesis digits.2 _

theorem isDigit_of_mem_digits {number : Nat} {char : Char} (member : char ∈ digits number) :
    isDigit char :=
  Nat.isDigit_of_mem_toDigits (by decide) (by decide) member

theorem digits_ne_nil (number : Nat) : digits number ≠ [] := Nat.toDigits_ne_nil

/-- Digits start with nothing but a digit. -/
theorem digits_ne_cons {first : Char} (other : isDigit first = false) (number : Nat)
    (rest : List Char) : digits number ≠ first :: rest := by
  intro starts
  have digit := isDigit_of_mem_digits (starts ▸ List.mem_cons_self)
  rw [other] at digit
  exact absurd digit (by decide)

theorem toList_writeInt_of_neg {number : Int} (negative : number < 0) :
    (writeInt number).toList = '-' :: digits number.natAbs := by
  simp [writeInt, negative]

theorem toList_writeInt_of_nonneg {number : Int} (nonneg : 0 ≤ number) :
    (writeInt number).toList = digits number.natAbs := by
  simp [writeInt, Int.not_lt.mpr nonneg]

/-- How many digits a number has, by the powers of ten. -/
theorem lt_pow_length_digits (number : Nat) : number < 10 ^ (digits number).length :=
  (Nat.length_toDigits_le_iff (by decide) (List.length_pos_of_ne_nil (digits_ne_nil number))).mp
    (Nat.le_refl _)

theorem pow_length_digits_le {number count : Nat} (positive : 0 < number)
    (length : (digits number).length = count + 1) : 10 ^ count ≤ number := by
  rcases Nat.eq_zero_or_pos count with rfl | several
  · exact positive
  · rw [← Nat.not_lt, ← Nat.length_toDigits_le_iff (by decide) several]
    change ¬(digits number).length ≤ count
    omega

/-- Only zero is written with a zero in front. -/
theorem eq_zero_of_head?_digits {number : Nat} (zero : (digits number).head? = some '0') :
    number = 0 := by
  unfold digits at zero
  induction number using Nat.base_induction 10 (by decide) with
  | single digit small =>
    rw [Nat.toDigits_of_lt_base small, List.head?_cons, Option.some.injEq] at zero
    exact Nat.digitChar_eq_zero.mp zero
  | digit number last small positive hypothesis =>
    rw [← Nat.toDigits_append_toDigits (by decide) positive small,
      List.head?_append_of_ne_nil _ Nat.toDigits_ne_nil] at zero
    have vanishes := hypothesis zero
    omega

/-- A number with more than one digit does not start with a zero. -/
theorem head?_digits_ne_zero {number : Nat} (long : 1 < (digits number).length) :
    (digits number).head? ≠ some '0' := by
  intro zero
  rw [eq_zero_of_head?_digits zero] at long
  exact absurd long (by decide)

/-- **Digits stand for the number they were made of.** -/
theorem natOfDigits?_digits (number : Nat) : natOfDigits? (digits number) = some number := by
  rw [natOfDigits?_eq fun _ => isDigit_of_mem_digits]
  exact congrArg some Nat.ofDigitChars_ten_toDigits

/-- Zeros at the end multiply a number by powers of ten. -/
theorem digits_mul_pow {number : Nat} (positive : 0 < number) (count : Nat) :
    digits (number * 10 ^ count) = digits number ++ List.replicate count '0' := by
  induction count with
  | zero => rw [Nat.pow_zero, Nat.mul_one, List.replicate_zero, List.append_nil]
  | succ count hypothesis =>
    have some_digit : 0 < number * 10 ^ count := Nat.mul_pos positive (Nat.pow_pos (by decide))
    have last := Nat.toDigits_append_toDigits (by decide : 1 < 10) some_digit (by decide : 0 < 10)
    have tenfold : 10 * (number * 10 ^ count) + 0 = number * 10 ^ (count + 1) := by
      rw [Nat.add_zero, Nat.pow_succ, ← Nat.mul_assoc number, Nat.mul_comm 10]
    rw [List.replicate_succ', ← List.append_assoc, ← hypothesis, ← tenfold]
    exact last.symm

/-! ### Zeros in front -/

theorem isDigit_of_mem_padZeros {width number : Nat} {char : Char}
    (member : char ∈ padZeros width (digits number)) : isDigit char := by
  rcases List.mem_append.mp member with zero | digit
  · rw [List.eq_of_mem_replicate zero]
    rfl
  · exact isDigit_of_mem_digits digit

theorem ofDigitChars_padZeros (width number : Nat) :
    Nat.ofDigitChars 10 (padZeros width (digits number)) 0 = number := by
  unfold padZeros
  rw [Nat.ofDigitChars_append, Nat.ofDigitChars_replicate_zero]
  exact Nat.ofDigitChars_ten_toDigits

theorem natOfDigits?_padded (width number : Nat) :
    natOfDigits? (padZeros width (digits number)) = some number := by
  rw [natOfDigits?_eq fun _ => isDigit_of_mem_padZeros, ofDigitChars_padZeros]

theorem length_padZeros (width : Nat) (chars : List Char) :
    (padZeros width chars).length = max width chars.length := by
  unfold padZeros
  rw [List.length_append, List.length_replicate]
  omega

/-- A number that fits a width takes just as many characters. -/
theorem length_padded {width number : Nat} (wide : 0 < width) (fits : number < 10 ^ width) :
    (padZeros width (digits number)).length = width := by
  have short : (digits number).length ≤ width :=
    (Nat.length_toDigits_le_iff (by decide) wide).mpr fits
  rw [length_padZeros, Nat.max_eq_left short]

/-! ### Other bases -/

section Base

variable {base : Nat} {value? : Char → Option Nat}

/-- **Digits in a base stand for the number they were made of.** -/
theorem foldl_toDigits (large : 1 < base)
    (values : ∀ digit < base, value? digit.digitChar = some digit) (number : Nat) :
    (Nat.toDigits base number).foldl
      (fun total char => total * base + (value? char).getD 0) 0 = number := by
  induction number using Nat.base_induction base large with
  | single digit small =>
    rw [Nat.toDigits_of_lt_base small, List.foldl_cons, List.foldl_nil, values digit small,
      Option.getD_some, Nat.zero_mul, Nat.zero_add]
  | digit number last small positive hypothesis =>
    rw [← Nat.toDigits_append_toDigits large positive small, List.foldl_append, hypothesis,
      Nat.toDigits_of_lt_base small, List.foldl_cons, List.foldl_nil, values last small,
      Option.getD_some, Nat.mul_comm]

/-- A reader of single digits reads every digit of a number. -/
theorem isSome_of_mem_toDigits (large : 1 < base)
    (values : ∀ digit < base, value? digit.digitChar = some digit) {number : Nat} {char : Char}
    (member : char ∈ Nat.toDigits base number) : (value? char).isSome := by
  induction number using Nat.base_induction base large with
  | single digit small =>
    rw [Nat.toDigits_of_lt_base small, List.mem_singleton] at member
    rw [member, values digit small]
    rfl
  | digit number last small positive hypothesis =>
    rw [← Nat.toDigits_append_toDigits large positive small, Nat.toDigits_of_lt_base small,
      List.mem_append, List.mem_singleton] at member
    rcases member with earlier | equal
    · exact hypothesis earlier
    · rw [equal, values last small]
      rfl

end Base

end Paydesk.Text
