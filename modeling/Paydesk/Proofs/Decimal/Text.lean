/-
**Decimals read back.**

The text of a decimal has all its digits and places, so a reader finds the same decimal in it, but
for a minus sign on zero.

* `readDigits_run`: a run of digits that stays within the bounds of a decimal;
* `readDigits_whole`, `readDigits_point`: digits without a point and with one;
* `readDigits_writeParts`: the coefficient and the places of a decimal, from its digits;
* `Decimal.read_write`: **a decimal is read back from its text**;
* `Amount.reread`: what is read of an amount, which is the same money.
-/

import Mathlib.Data.List.TakeWhile
import Paydesk.Json.Record
import Paydesk.Proofs.Decimal.Value
import Paydesk.Proofs.Text.Digits

namespace Paydesk

namespace Decimal

theorem le_ofDigitChars (chars : List Char) (start : Nat) :
    start ≤ Nat.ofDigitChars 10 chars start := by
  rw [Nat.ofDigitChars_eq_ofDigitChars_zero]
  have positive : 0 < 10 ^ chars.length := Nat.pow_pos (by decide)
  exact Nat.le_trans (Nat.le_mul_of_pos_left start positive) (Nat.le_add_right _ _)

/-- Digits are read by position while the coefficient and the places are within bounds. -/
theorem readDigits_run {run : List Char} (digits : ∀ char ∈ run, Text.isDigit char)
    (rest : List Char) (coefficient scale : Nat) (started point : Bool)
    (small : Nat.ofDigitChars 10 run coefficient < limit)
    (short : point = true → scale + run.length ≤ maxScale) :
    readDigits coefficient scale started point (run ++ rest)
      = readDigits (Nat.ofDigitChars 10 run coefficient)
          (if point then scale + run.length else scale) (started || !run.isEmpty) point rest := by
  induction run generalizing coefficient scale started with
  | nil => cases point <;> simp
  | cons char run hypothesis =>
    rw [List.forall_mem_cons] at digits
    rw [Nat.ofDigitChars_cons, Nat.mul_comm] at small ⊢
    have digit := Text.digitValue?_eq_some digits.1
    have room : coefficient * 10 + (char.toNat - '0'.toNat) < limit :=
      Nat.lt_of_le_of_lt (le_ofDigitChars run _) small
    have notFull : ¬(point && scale == maxScale) := by
      rw [Bool.and_eq_true, beq_iff_eq]
      rintro ⟨fraction, full⟩
      have bound := short fraction
      rw [List.length_cons] at bound
      omega
    rw [List.cons_append, readDigits, if_neg notFull, digit]
    simp only [if_pos room]
    rw [hypothesis digits.2 _ _ true small]
    · cases point
      · simp
      · simp only [if_true, Bool.true_or, List.isEmpty_cons, Bool.not_false, Bool.or_true,
          List.length_cons, Nat.add_assoc, Nat.add_comm 1]
    · intro fraction
      have bound := short fraction
      rw [List.length_cons] at bound
      simp only [fraction, if_true]
      omega

section Point

variable {whole fraction : List Char} (nonempty : whole ≠ [])

include nonempty

/-- Digits without a point are read as their number. -/
theorem readDigits_whole (digits : ∀ char ∈ whole, Text.isDigit char)
    (small : Nat.ofDigitChars 10 whole 0 < limit) :
    readDigits 0 0 false false whole = .ok (Nat.ofDigitChars 10 whole 0, 0) := by
  have run := readDigits_run digits [] 0 0 false false small (fun point => absurd point (by decide))
  have started : (false || !whole.isEmpty) = true := by simp [nonempty]
  rw [List.append_nil] at run
  rw [run, started]
  rfl

/-- Digits on both sides of a point are read as their number and the places after the point. -/
theorem readDigits_point (digits : ∀ char ∈ whole ++ fraction, Text.isDigit char)
    (small : Nat.ofDigitChars 10 (whole ++ fraction) 0 < limit)
    (short : fraction.length ≤ maxScale) :
    readDigits 0 0 false false (whole ++ '.' :: fraction)
      = .ok (Nat.ofDigitChars 10 (whole ++ fraction) 0, fraction.length) := by
  have wholeDigits := fun char member => digits char (List.mem_append_left fraction member)
  have fractionDigits := fun char member => digits char (List.mem_append_right whole member)
  rw [Nat.ofDigitChars_append] at small ⊢
  have wholeSmall : Nat.ofDigitChars 10 whole 0 < limit :=
    Nat.lt_of_le_of_lt (le_ofDigitChars fraction _) small
  have started : (false || !whole.isEmpty) = true := by simp [nonempty]
  have tail := readDigits_run fractionDigits [] (Nat.ofDigitChars 10 whole 0) 0 true true small
    (fun _ => by omega)
  have point : readDigits (Nat.ofDigitChars 10 whole 0) 0 true false ('.' :: fraction)
      = readDigits (Nat.ofDigitChars 10 whole 0) 0 true true fraction := rfl
  rw [List.append_nil, Nat.zero_add] at tail
  rw [readDigits_run wholeDigits _ 0 0 false false wholeSmall
    (fun point => absurd point (by decide)), started]
  exact point.trans tail

end Point

/-- The digits of a decimal on both sides of its point. -/
theorem writeParts_eq (coefficient scale : Nat) : ∃ whole fraction : List Char,
    whole ≠ [] ∧ fraction.length = scale
      ∧ (∀ char ∈ whole ++ fraction, Text.isDigit char)
      ∧ Nat.ofDigitChars 10 (whole ++ fraction) 0 = coefficient
      ∧ writeParts coefficient scale = if scale = 0 then whole else whole ++ '.' :: fraction := by
  have long : scale + 1 ≤ (Text.padZeros (scale + 1) (Text.digits coefficient)).length := by
    rw [Text.length_padZeros]
    exact Nat.le_max_left _ _
  refine ⟨_, _, ?_, ?_, ?_, ?_, rfl⟩
  · rw [← List.length_pos_iff, List.length_take]
    omega
  · rw [List.length_drop]
    omega
  · rw [List.take_append_drop]
    exact fun _ => Text.isDigit_of_mem_padZeros
  · rw [List.take_append_drop]
    exact Text.ofDigitChars_padZeros _ _

/-- **The digits of a decimal are read as its coefficient and its places.** -/
theorem readDigits_writeParts {coefficient scale : Nat} (small : coefficient < limit)
    (short : scale ≤ maxScale) :
    readDigits 0 0 false false (writeParts coefficient scale) = .ok (coefficient, scale) := by
  obtain ⟨whole, fraction, nonempty, places, digits, value, shape⟩ := writeParts_eq coefficient scale
  subst value places
  rw [shape]
  split
  · rename_i none
    have noFraction : fraction = [] := List.eq_nil_of_length_eq_zero none
    subst noFraction
    rw [List.append_nil] at digits small ⊢
    exact readDigits_whole nonempty digits small
  · exact readDigits_point nonempty digits small short

theorem isDigit_or_point_of_mem_writeParts {coefficient scale : Nat} {char : Char}
    (member : char ∈ writeParts coefficient scale) : Text.isDigit char ∨ char = '.' := by
  obtain ⟨whole, fraction, _, _, digits, _, shape⟩ := writeParts_eq coefficient scale
  rw [shape] at member
  split at member
  · exact Or.inl (digits char (List.mem_append_left fraction member))
  · rw [List.mem_append, List.mem_cons] at member
    rcases member with before | point | after
    · exact Or.inl (digits char (List.mem_append_left fraction before))
    · exact Or.inr point
    · exact Or.inl (digits char (List.mem_append_right whole after))

/-- The text of a decimal starts with a digit, after its sign. -/
theorem writeParts_head (coefficient scale : Nat) : ∃ first tail,
    writeParts coefficient scale = first :: tail ∧ Text.isDigit first := by
  obtain ⟨whole, fraction, nonempty, _, digits, _, shape⟩ := writeParts_eq coefficient scale
  obtain ⟨first, tail, cons⟩ := List.exists_cons_of_ne_nil nonempty
  have digit : Text.isDigit first := digits first (by simp [cons])
  rw [shape, cons]
  split
  · exact ⟨first, tail, rfl, digit⟩
  · exact ⟨first, _, List.cons_append, digit⟩

/-! ### Whole texts -/

/-- Digits within bounds are a decimal with a sign. -/
theorem readSigned_eq {chars : List Char} {coefficient scale : Nat} (negative : Bool)
    (read : readDigits 0 0 false false chars = .ok (coefficient, scale))
    (small : coefficient < limit) (short : scale ≤ maxScale) :
    readSigned negative chars = .ok (ofParts negative coefficient scale small short) := by
  have parts : ofParts? negative coefficient scale
      = some (ofParts negative coefficient scale small short) := dif_pos ⟨small, short⟩
  unfold readSigned
  rw [read]
  simp only [bind, Except.bind, parts]

theorem readSigned_writeParts (decimal : Decimal) :
    readSigned decimal.negative (writeParts decimal.coefficient decimal.scale)
      = .ok decimal.withoutZeroSign :=
  readSigned_eq _ (readDigits_writeParts decimal.coefficient_lt decimal.scale_le) _ _

/-- A numeral that starts with no sign. -/
theorem readNumeral_unsigned {first : Char} (minus : first ≠ '-') (plus : first ≠ '+')
    (rest : List Char) : readNumeral (first :: rest) = readSigned false (first :: rest) := by
  unfold readNumeral
  split
  case h_1 starts => cases starts
  case h_2 starts => exact absurd (List.cons.inj starts).1 minus
  case h_3 starts => exact absurd (List.cons.inj starts).1 plus
  case h_4 => rfl

/-- A numeral is its sign and what starts with a digit. -/
theorem readNumeral_signed {first : Char} (digit : Text.isDigit first) (negative : Bool)
    (rest : List Char) :
    readNumeral ((if negative then ['-'] else []) ++ first :: rest)
      = readSigned negative (first :: rest) := by
  cases negative with
  | true => rfl
  | false =>
    refine readNumeral_unsigned ?_ ?_ rest
    · rintro rfl
      exact absurd digit (by decide)
    · rintro rfl
      exact absurd digit (by decide)

/-- The text of a decimal, by its coefficient and scale. -/
theorem toList_write (decimal : Decimal) :
    decimal.write.toList = (if decimal.negative then ['-'] else [])
      ++ writeParts decimal.coefficient decimal.scale := by
  unfold write
  rw [String.toList_ofList]
  split <;> rfl

theorem readNumeral_write (decimal : Decimal) :
    readNumeral decimal.write.toList = .ok decimal.withoutZeroSign := by
  obtain ⟨first, tail, shape, digit⟩ := writeParts_head decimal.coefficient decimal.scale
  rw [toList_write, shape, readNumeral_signed digit, ← shape]
  exact decimal.readSigned_writeParts

/-- The characters in the text of a decimal. -/
theorem mem_write {decimal : Decimal} {char : Char} (member : char ∈ decimal.write.toList) :
    char = '-' ∨ Text.isDigit char ∨ char = '.' := by
  unfold write at member
  rw [String.toList_ofList] at member
  split at member
  · rcases List.mem_cons.mp member with sign | inside
    · exact Or.inl sign
    · exact Or.inr (isDigit_or_point_of_mem_writeParts inside)
  · exact Or.inr (isDigit_or_point_of_mem_writeParts member)

theorem isExponentMark_of_isDigit {char : Char} (digit : Text.isDigit char) :
    isExponentMark char = false := by
  rw [← Bool.not_eq_true, isExponentMark, Bool.or_eq_true, beq_iff_eq, beq_iff_eq]
  rintro (rfl | rfl) <;> exact absurd digit (by decide)

/-- A text without an exponent is read as a numeral. -/
theorem read_eq_readNumeral {text : String}
    (plain : ∀ char ∈ text.toList, isExponentMark char = false) :
    read text = readNumeral text.toList := by
  have noExponent : text.toList.dropWhile (!isExponentMark ·) = [] := by
    rw [List.dropWhile_eq_nil_iff]
    exact fun char member => (Bool.not_eq_true' _).mpr (plain char member)
  unfold read
  simp only [noExponent]

/-- **A decimal is read back from its text.** -/
theorem read_write (decimal : Decimal) : read decimal.write = .ok decimal.withoutZeroSign := by
  rw [read_eq_readNumeral]
  · exact decimal.readNumeral_write
  · intro char member
    rcases mem_write member with rfl | digit | rfl
    · rfl
    · exact isExponentMark_of_isDigit digit
    · rfl

theorem isBlank_of_isDigit {char : Char} (digit : Text.isDigit char) :
    Text.isBlank char = false := by
  obtain ⟨least, most⟩ := Text.toNat_of_isDigit digit
  rw [← Bool.not_eq_true]
  unfold Text.isBlank
  simp only [Bool.or_eq_true, Bool.and_eq_true, decide_eq_true_eq, beq_iff_eq]
  omega

/-- Nothing is cut off a text without white space. -/
theorem trimBlank_eq_self {text : String}
    (visible : ∀ char ∈ text.toList, Text.isBlank char = false) : Text.trimBlank text = text := by
  have front : text.toList.dropWhile Text.isBlank = text.toList :=
    Text.Stops.dropWhile_eq fun char first => visible char (List.mem_of_head? first)
  have back : text.toList.reverse.dropWhile Text.isBlank = text.toList.reverse :=
    Text.Stops.dropWhile_eq fun char first =>
      visible char (List.mem_reverse.mp (List.mem_of_head? first))
  unfold Text.trimBlank Text.trimChars
  rw [front, back, List.reverse_reverse, String.ofList_toList]

/-- There is no white space at the ends of a decimal's text. -/
theorem trimBlank_write (decimal : Decimal) : Text.trimBlank decimal.write = decimal.write := by
  refine trimBlank_eq_self fun char member => ?_
  rcases mem_write member with rfl | digit | rfl
  · decide
  · exact isBlank_of_isDigit digit
  · decide

end Decimal

namespace Amount

/-- What is read of an amount. -/
def reread (amount : Amount) : Amount := round amount.value.withoutZeroSign

/-- **What is read of an amount is the same money.** -/
theorem sameValue_reread (amount : Amount) : amount.reread.sameValue amount :=
  Decimal.sameValue_trans (sameValue_round amount.scale_le) amount.value.sameValue_withoutZeroSign

theorem readAmount?_ofAmount (amount : Amount) :
    Json.readAmount? (Json.ofAmount amount) = some amount.reread := by
  have read : (Decimal.read amount.value.write).toOption = some amount.value.withoutZeroSign := by
    rw [amount.value.read_write]
    rfl
  exact congrArg (Option.map round) read

end Amount

end Paydesk
