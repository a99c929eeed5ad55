/-
**Numbers before other text.**

A number of a document ends where no digit, point or mark of an exponent follows. So a text that is
one number is read as that number before anything of the kind, and a whole number that fits 64 bits
is read back.

* `isNumeral`: the characters that can go on with a number;
* `readNumber?_append`: **a number is read alike at the end of the text and before other text**;
* `readNumber?_writeInt`: **a whole number is read back**.
-/

import Paydesk.Json.Reader
import Paydesk.Proofs.Text.Digits

namespace Paydesk.Json

open Text (Stops digits)

/-! ### Where a number ends -/

/-- Whether a character can go on with a number. -/
def isNumeral (char : Char) : Bool :=
  Text.isDigit char || char == '.' || char == 'e' || char == 'E'

section Numbers

variable {rest : List Char}

theorem stops_isDigit (stops : Stops isNumeral rest) : Stops Text.isDigit rest := by
  intro char first
  have outside := stops char first
  simp only [isNumeral, Bool.or_eq_false_iff] at outside
  exact outside.1.1.1

theorem readFraction?_of_stops (stops : Stops isNumeral rest) :
    readFraction? rest = some (none, rest) := by
  cases rest with
  | nil => rfl
  | cons char tail =>
    have outside := Text.stops_cons.mp stops
    rw [readFraction?]
    intro _ starts
    rw [(List.cons.inj starts).1] at outside
    exact absurd outside (by decide)

theorem readExponent?_of_stops (stops : Stops isNumeral rest) :
    readExponent? rest = some (none, rest) := by
  cases rest with
  | nil => rfl
  | cons char tail =>
    have outside := Text.stops_cons.mp stops
    simp only [isNumeral, Bool.or_eq_false_iff] at outside
    simp only [readExponent?, outside.1.2, outside.2, Bool.or_self, Bool.false_eq_true, if_false]

theorem spanDigits_append (stops : Stops isNumeral rest) (chars : List Char) :
    spanDigits (chars ++ rest) = ((spanDigits chars).1, (spanDigits chars).2 ++ rest) := by
  unfold spanDigits
  induction chars with
  | nil =>
    have ends := stops_isDigit stops
    rw [List.nil_append, ends.takeWhile_eq, ends.dropWhile_eq]
    rfl
  | cons char chars hypothesis =>
    by_cases digit : Text.isDigit char
    · simpa [List.takeWhile_cons, List.dropWhile_cons, digit] using hypothesis
    · simp [digit]

section Append

variable {chars tail : List Char}

theorem readFraction?_append (stops : Stops isNumeral rest) {fraction : Option (List Char)}
    (read : readFraction? chars = some (fraction, tail)) :
    readFraction? (chars ++ rest) = some (fraction, tail ++ rest) := by
  cases chars with
  | nil =>
    cases read
    exact readFraction?_of_stops stops
  | cons char chars =>
    by_cases point : char = '.'
    · subst point
      simp only [List.cons_append, readFraction?, spanDigits_append stops] at read ⊢
      split at read
      · nomatch read
      · rename_i digits
        cases read
        rw [if_neg digits]
    · rw [readFraction?] at read
      · cases read
        rw [List.cons_append, readFraction?]
        intro more starts
        exact point (List.cons.inj starts).1
      · intro more starts
        exact point (List.cons.inj starts).1

theorem readPower?_append (stops : Stops isNumeral rest) {negative : Bool} {power : Option Int}
    (read : readPower? negative chars = some (power, tail)) :
    readPower? negative (chars ++ rest) = some (power, tail ++ rest) := by
  simp only [readPower?, spanDigits_append stops] at read ⊢
  split at read
  · nomatch read
  · rename_i digits
    obtain ⟨value, found, same⟩ := Option.map_eq_some_iff.mp read
    cases same
    rw [if_neg digits, found]
    rfl

/-- An exponent after its mark, without a sign. -/
theorem readExponent?_unsigned {mark : Char} (marked : (mark == 'e' || mark == 'E') = true)
    (unsigned : ∀ more, chars ≠ '-' :: more ∧ chars ≠ '+' :: more) :
    readExponent? (mark :: chars) = readPower? false chars := by
  rw [readExponent?]
  · exact if_pos marked
  · intro more starts
    exact (unsigned more).1 starts
  · intro more starts
    exact (unsigned more).2 starts

theorem readExponent?_append (stops : Stops isNumeral rest) {exponent : Option Int}
    (read : readExponent? chars = some (exponent, tail)) :
    readExponent? (chars ++ rest) = some (exponent, tail ++ rest) := by
  cases chars with
  | nil =>
    cases read
    exact readExponent?_of_stops stops
  | cons char chars =>
    by_cases marked : (char == 'e' || char == 'E') = true
    · rcases chars with _ | ⟨sign, chars⟩
      · rw [readExponent?_unsigned marked (by simp)] at read
        nomatch read
      · rw [List.cons_append, List.cons_append]
        by_cases minus : sign = '-'
        · subst minus
          simp only [readExponent?, marked, if_true] at read ⊢
          exact readPower?_append stops read
        · by_cases plus : sign = '+'
          · subst plus
            simp only [readExponent?, marked, if_true] at read ⊢
            exact readPower?_append stops read
          · rw [readExponent?_unsigned marked (by simp [minus, plus])] at read ⊢
            exact readPower?_append stops read
    · rw [Bool.not_eq_true] at marked
      have kept (more : List Char) : readExponent? (char :: more) = some (none, char :: more) := by
        unfold readExponent?
        simp only [marked, Bool.false_eq_true, if_false]
      rw [kept] at read
      cases read
      exact kept (chars ++ rest)

theorem readMagnitude?_append (stops : Stops isNumeral rest) {negative : Bool} {json : Json}
    (read : readMagnitude? negative chars = some (json, tail)) :
    readMagnitude? negative (chars ++ rest) = some (json, tail ++ rest) := by
  unfold readMagnitude? at read ⊢
  rw [spanDigits_append stops]
  generalize spanDigits chars = span at read ⊢
  obtain ⟨whole, after⟩ := span
  simp only [Option.bind_eq_bind] at read ⊢
  split at read
  · nomatch read
  · rename_i accepted
    rw [if_neg accepted]
    obtain ⟨⟨fraction, after_fraction⟩, fraction_read, read⟩ := Option.bind_eq_some_iff.mp read
    obtain ⟨⟨exponent, after_exponent⟩, exponent_read, read⟩ := Option.bind_eq_some_iff.mp read
    obtain ⟨value, found, same⟩ := Option.bind_eq_some_iff.mp read
    cases same
    simp only [readFraction?_append stops fraction_read, Option.bind_some,
      readExponent?_append stops exponent_read, found]
    rfl

/-- **A number is read alike at the end of the text and before other text.** -/
theorem readNumber?_append (stops : Stops isNumeral rest) {json : Json}
    (read : readNumber? chars = some (json, tail)) :
    readNumber? (chars ++ rest) = some (json, tail ++ rest) := by
  cases chars with
  | nil => nomatch read
  | cons first chars =>
    by_cases minus : first = '-'
    · subst minus
      exact readMagnitude?_append stops read
    · have unsigned (more : List Char) :
          readNumber? (first :: more) = readMagnitude? false (first :: more) := by
        rw [readNumber?]
        intro others starts
        exact minus (List.cons.inj starts).1
      rw [unsigned] at read
      rw [List.cons_append, unsigned]
      exact readMagnitude?_append stops read

/-- A number starts with a digit or a sign. -/
theorem readNumber?_head {result : Json × List Char} (read : readNumber? chars = some result) :
    ∃ first more, chars = first :: more ∧ (Text.isDigit first ∨ first = '-') := by
  cases chars with
  | nil => nomatch read
  | cons first chars =>
    refine ⟨first, chars, rfl, ?_⟩
    by_cases minus : first = '-'
    · exact Or.inr minus
    · refine Or.inl ?_
      by_contra digit
      have empty : spanDigits (first :: chars) = ([], first :: chars) := by
        simp [spanDigits, digit]
      rw [readNumber?] at read
      · simp [readMagnitude?, empty] at read
      · intro more starts
        exact minus (List.cons.inj starts).1

end Append

/-! ### Whole numbers -/

/-- The digits of a number are read as a numeral without fraction and exponent. -/
theorem readMagnitude?_digits (negative : Bool) (magnitude : Nat) (stops : Stops isNumeral rest) :
    readMagnitude? negative (digits magnitude ++ rest)
      = (Numeral.value? ⟨negative, digits magnitude, none, none⟩).map (·, rest) := by
  have whole : spanDigits (digits magnitude ++ rest) = (digits magnitude, rest) := by
    unfold spanDigits
    rw [Text.takeWhile_run (fun _ => Text.isDigit_of_mem_digits) (stops_isDigit stops),
      Text.dropWhile_run (fun _ => Text.isDigit_of_mem_digits) (stops_isDigit stops)]
  have accepted : ((digits magnitude).isEmpty
      || (decide (1 < (digits magnitude).length) && (digits magnitude).head? == some '0'))
        = false := by
    rw [Bool.or_eq_false_iff, Bool.and_eq_false_imp]
    refine ⟨List.isEmpty_eq_false_iff.mpr (Text.digits_ne_nil magnitude), fun long => ?_⟩
    exact beq_eq_false_iff_ne.mpr (Text.head?_digits_ne_zero (of_decide_eq_true long))
  unfold readMagnitude?
  simp only [whole, accepted, readFraction?_of_stops stops, readExponent?_of_stops stops,
    Bool.false_eq_true, if_false, Option.pure_def, Option.bind_eq_bind, Option.bind_some]
  exact Option.map_eq_bind.symm

/-- A whole number that fits 64 bits, with or without a sign. -/
def FitsDocument (number : Int) : Prop := -Nat.pow 2 63 ≤ number ∧ number < Nat.pow 2 64

instance (number : Int) : Decidable (FitsDocument number) :=
  inferInstanceAs (Decidable (-Nat.pow 2 63 ≤ number ∧ number < Nat.pow 2 64))

theorem value?_digits_of_nonneg {magnitude : Nat} (fits : FitsDocument magnitude) :
    Numeral.value? ⟨false, digits magnitude, none, none⟩ = some (.int magnitude) := by
  have small : magnitude ≤ Numeral.maxSignificand := by
    have upper := fits.2
    unfold Numeral.maxSignificand
    omega
  simp [Numeral.value?, Text.natOfDigits?_digits, small]

theorem value?_digits_of_neg {magnitude : Nat} (positive : 0 < magnitude)
    (fits : FitsDocument (-magnitude)) :
    Numeral.value? ⟨true, digits magnitude, none, none⟩ = some (.int (-magnitude)) := by
  have small : magnitude ≤ Nat.pow 2 63 := by
    have lower := fits.1
    omega
  simp [Numeral.value?, Text.natOfDigits?_digits, positive, small]

/-- A written number starts with a digit or a sign. -/
theorem writeInt_head (number : Int) : ∃ first tail,
    (Text.writeInt number).toList = first :: tail ∧ (Text.isDigit first ∨ first = '-') := by
  rcases Int.lt_or_le number 0 with negative | nonneg
  · exact ⟨'-', digits number.natAbs, Text.toList_writeInt_of_neg negative, Or.inr rfl⟩
  · obtain ⟨first, tail, shape⟩ := List.exists_cons_of_ne_nil (Text.digits_ne_nil number.natAbs)
    refine ⟨first, tail, (Text.toList_writeInt_of_nonneg nonneg).trans shape, Or.inl ?_⟩
    exact Text.isDigit_of_mem_digits (shape ▸ List.mem_cons_self)

/-- **A whole number is read back.** -/
theorem readNumber?_writeInt {number : Int} (fits : FitsDocument number)
    (stops : Stops isNumeral rest) :
    readNumber? ((Text.writeInt number).toList ++ rest) = some (.int number, rest) := by
  rcases Int.lt_or_le number 0 with negative | nonneg
  · have sign : (-(number.natAbs : Int)) = number := by omega
    have value := value?_digits_of_neg (by omega : 0 < number.natAbs) (sign.symm ▸ fits)
    rw [Text.toList_writeInt_of_neg negative, List.cons_append, readNumber?,
      readMagnitude?_digits _ _ stops, value, sign]
    rfl
  · have sign : ((number.natAbs : Nat) : Int) = number := by omega
    have value := value?_digits_of_nonneg (sign.symm ▸ fits : FitsDocument number.natAbs)
    have unsigned : readNumber? (digits number.natAbs ++ rest)
        = readMagnitude? false (digits number.natAbs ++ rest) := by
      obtain ⟨first, tail, parts⟩ := List.exists_cons_of_ne_nil (Text.digits_ne_nil number.natAbs)
      rw [parts, List.cons_append, readNumber?]
      intro _ starts
      rw [(List.cons.inj starts).1] at parts
      exact Text.digits_ne_cons rfl _ _ parts
    rw [Text.toList_writeInt_of_nonneg nonneg, unsigned, readMagnitude?_digits _ _ stops, value,
      sign]
    rfl

end Numbers

end Paydesk.Json
