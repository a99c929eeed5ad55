/-
**Numerals of any length.**

A numeral may have more digits than a decimal has room for. Its digits are read one after another
while they fit, the first that does not fit rounds the number, and those after it are passed over.
So a numeral is read as its number rounded once, a half away from zero, to as many places as there
is room for, and it is refused where there is none even for the nearest whole number.

* `PlainNumeral`: a sign, digits, a point and digits after it, and the number that they stand for;
* `KeepsDigits`, `keepsDigits_fraction`: **digits that are kept while they fit**, by induction on
  the digits after the point;
* `room`, `Keeps.toRat_eq`: the most places that there is room for, and that they are kept;
* `readsNearest_numeral`: **a numeral is read as the decimal nearest to it**;
* `exists_numeral_writeFixed`: a decimal with zeros at its end, written as a numeral.
-/

import Paydesk.Proofs.Decimal.Scientific

namespace Paydesk

/-! ### Rounding at a digit -/

/-- The digit after the last that is kept decides how a number is rounded. -/
theorem quotientHalfUp_tenfold (num : Nat) {unit : Nat} (positive : 0 < unit) :
    quotientHalfUp num (10 * unit) = (num / unit + 5) / 10 := by
  have halves : 2 * num + 10 * unit = 2 * (num + 5 * unit) := by ring
  have steps : 2 * (10 * unit) = 2 * (unit * 10) := by ring
  unfold quotientHalfUp
  rw [halves, steps, Nat.mul_div_mul_left _ _ (by decide), ← Nat.div_div_eq_div_mul,
    Nat.add_mul_div_right _ _ positive]

theorem quotientHalfUp_mono {num other : Nat} (less : num ≤ other) (den : Nat) :
    quotientHalfUp num den ≤ quotientHalfUp other den :=
  Nat.div_le_div_right (by omega)

theorem div_le_quotientHalfUp (num den : Nat) : num / den ≤ quotientHalfUp num den := by
  unfold quotientHalfUp
  rw [← Nat.mul_div_mul_left num den (by decide : 0 < 2)]
  exact Nat.div_le_div_right (Nat.le_add_right _ _)

/-- Places that a number and the unit it is counted in have in common do not matter. -/
theorem quotientHalfUp_shift (num places len : Nat) :
    quotientHalfUp (num * 10 ^ places) (10 ^ (places + len)) = quotientHalfUp num (10 ^ len) := by
  rw [pow_add, Nat.mul_comm (10 ^ places), quotientHalfUp_mul _ _ (Nat.pow_pos (by decide))]

/-- A number rounded to some of its places, by the digit after them. -/
theorem quotientHalfUp_places (num places len : Nat) :
    quotientHalfUp (num * 10 ^ places) (10 ^ (places + (len + 1))) = (num / 10 ^ len + 5) / 10 := by
  rw [quotientHalfUp_shift, pow_succ', quotientHalfUp_tenfold _ (Nat.pow_pos (by decide))]

/-- With more places, no fewer digits. -/
theorem div_le_quotientHalfUp_places (num : Nat) {places more len : Nat} (further : places < more) :
    num / 10 ^ len ≤ quotientHalfUp (num * 10 ^ more) (10 ^ (places + (len + 1))) := by
  have steps : places + (len + 1) = places + 1 + len := by omega
  rw [steps]
  calc num / 10 ^ len ≤ quotientHalfUp num (10 ^ len) := div_le_quotientHalfUp _ _
    _ = quotientHalfUp (num * 10 ^ (places + 1)) (10 ^ (places + 1 + len)) :=
        (quotientHalfUp_shift _ _ _).symm
    _ ≤ quotientHalfUp (num * 10 ^ more) (10 ^ (places + 1 + len)) :=
        quotientHalfUp_mono (Nat.mul_le_mul_left _ (Nat.pow_le_pow_right (by decide) further)) _

theorem ofDigitChars_lt {chars : List Char} (digits : ∀ char ∈ chars, Text.isDigit char) :
    Nat.ofDigitChars 10 chars 0 < 10 ^ chars.length := by
  induction chars with
  | nil => decide
  | cons char rest hypothesis =>
    rw [List.forall_mem_cons] at digits
    have digit := Text.toNat_of_isDigit digits.1
    have rest_lt := hypothesis digits.2
    rw [Nat.ofDigitChars_cons, Nat.ofDigitChars_eq_ofDigitChars_zero, List.length_cons, pow_succ]
    have value : 10 * 0 + (char.toNat - '0'.toNat) ≤ 9 := by
      have zero : '0'.toNat = 48 := rfl
      omega
    have scaled := Nat.mul_le_mul_left (10 ^ rest.length) value
    omega

/-- Digits behind a number, taken off again. -/
theorem ofDigitChars_div_pow {chars : List Char} (digits : ∀ char ∈ chars, Text.isDigit char)
    (start : Nat) : Nat.ofDigitChars 10 chars start / 10 ^ chars.length = start := by
  rw [Nat.ofDigitChars_eq_ofDigitChars_zero, Nat.mul_add_div (Nat.pow_pos (by decide)),
    Nat.div_eq_of_lt (ofDigitChars_lt digits), Nat.add_zero]

namespace Decimal

/-! ### Digits that fit -/

/-- The digits of `num / 10 ^ len`, rounded to so many places with a half up, where there is room
for none of its further places. -/
structure Keeps (num len coefficient places : Nat) : Prop where
  small : coefficient < limit
  short : places ≤ maxScale
  digits : coefficient = quotientHalfUp (num * 10 ^ places) (10 ^ len)
  most : ∀ more, places < more → more ≤ maxScale → more ≤ len →
    limit ≤ quotientHalfUp (num * 10 ^ more) (10 ^ len)

/-- What a reader makes of the digits of `num / 10 ^ len`: it keeps those that there is room for, or
refuses them where there is none for the nearest whole number. -/
def KeepsDigits (num len : Nat) : Except NumeralError (Nat × Nat) → Prop
  | .ok (coefficient, places) => Keeps num len coefficient places
  | .error _ => limit ≤ quotientHalfUp num (10 ^ len)

theorem tailFault?_eq_none {chars : List Char} (digits : ∀ char ∈ chars, Text.isDigit char) :
    tailFault? chars = none := by
  induction chars with
  | nil => rfl
  | cons char rest hypothesis =>
    rw [List.forall_mem_cons] at digits
    rw [tailFault?, digits.1, Bool.true_or, if_pos rfl, hypothesis digits.2]

section Digits

variable {char : Char} {rest : List Char} {coefficient scale : Nat} {started : Bool}

/-- The digits of a number up to and before one of them. -/
theorem ofDigitChars_div (digits : ∀ other ∈ char :: rest, Text.isDigit other) (coefficient : Nat) :
    Nat.ofDigitChars 10 (char :: rest) coefficient / 10 ^ rest.length
        = coefficient * 10 + (char.toNat - '0'.toNat)
      ∧ Nat.ofDigitChars 10 (char :: rest) coefficient / 10 ^ (rest.length + 1) = coefficient := by
  rw [List.forall_mem_cons] at digits
  have digit := Text.toNat_of_isDigit digits.1
  have zero : '0'.toNat = 48 := rfl
  have upto : Nat.ofDigitChars 10 (char :: rest) coefficient / 10 ^ rest.length
      = coefficient * 10 + (char.toNat - '0'.toNat) := by
    rw [Nat.ofDigitChars_cons, Nat.mul_comm 10]
    exact ofDigitChars_div_pow digits.2 _
  refine ⟨upto, ?_⟩
  rw [pow_succ, ← Nat.div_div_eq_div_mul, upto]
  omega

/-- **A digit that does not fit** rounds the digits before it. Where they are rounded past the limit
the last place goes, and with it the digit before; without places the number is too large. -/
theorem keepsDigits_roundOff (digits : ∀ other ∈ char :: rest, Text.isDigit other)
    (small : coefficient < limit) (short : scale ≤ maxScale)
    (full : scale = maxScale ∨ limit ≤ coefficient * 10 + (char.toNat - '0'.toNat)) :
    KeepsDigits (Nat.ofDigitChars 10 (char :: rest) coefficient) (scale + (rest.length + 1))
      (roundOff coefficient scale (char :: rest)) := by
  obtain ⟨upto, before⟩ := ofDigitChars_div digits coefficient
  have value := Text.digitValue?_eq_some (digits char List.mem_cons_self)
  have first : ((char :: rest).findSome? Text.digitValue?).getD 0 = char.toNat - '0'.toNat := by
    rw [List.findSome?_cons, value]
    rfl
  have digit : char.toNat - '0'.toNat < 10 := by
    have bounds := Text.toNat_of_isDigit (digits char List.mem_cons_self)
    have zero : '0'.toNat = 48 := rfl
    omega
  generalize Nat.ofDigitChars 10 (char :: rest) coefficient = num at upto before ⊢
  generalize char.toNat - '0'.toNat = next at *
  have rounded : quotientHalfUp (num * 10 ^ scale) (10 ^ (scale + (rest.length + 1)))
      = (coefficient * 10 + next + 5) / 10 := upto ▸ quotientHalfUp_places _ _ _
  have beyond (more : Nat) (further : scale < more) (few : more ≤ maxScale) :
      limit ≤ quotientHalfUp (num * 10 ^ more) (10 ^ (scale + (rest.length + 1))) :=
    (upto ▸ full.resolve_left (by omega)).trans (div_le_quotientHalfUp_places num further)
  unfold roundOff
  rw [tailFault?_eq_none digits, first]
  simp only
  split_ifs with less room whole
  · exact ⟨small, short, by omega, fun more further few _ => beyond more further few⟩
  · exact ⟨room, short, by omega, fun more further few _ => beyond more further few⟩
  · subst whole
    rw [pow_zero, Nat.mul_one, Nat.zero_add] at rounded
    rw [Nat.zero_add]
    change limit ≤ quotientHalfUp num _
    omega
  · obtain ⟨fewer, rfl⟩ := Nat.exists_eq_succ_of_ne_zero whole
    refine ⟨by omega, (Nat.sub_le _ _).trans short, ?_, fun more further few _ => ?_⟩
    · have steps : fewer.succ + (rest.length + 1) = fewer + (rest.length + 1 + 1) := by omega
      rw [Nat.succ_sub_one, steps, quotientHalfUp_places, before]
    · rcases Nat.eq_or_lt_of_le (show fewer.succ ≤ more by omega) with rfl | beyond_last
      · rw [rounded]
        omega
      · exact beyond more beyond_last few

/-- **The digits after a point are kept while they fit.** -/
theorem keepsDigits_fraction {fraction : List Char} (digits : ∀ char ∈ fraction, Text.isDigit char)
    (some_digit : started = true ∨ fraction ≠ []) (small : coefficient < limit)
    (short : scale ≤ maxScale) :
    KeepsDigits (Nat.ofDigitChars 10 fraction coefficient) (scale + fraction.length)
      (readDigits coefficient scale started true fraction) := by
  induction fraction generalizing coefficient scale started with
  | nil =>
    have seen : started = true := some_digit.resolve_right (fun more => more rfl)
    rw [readDigits, if_pos seen]
    exact ⟨small, short, (quotientHalfUp_exact coefficient (Nat.pow_pos (by decide))).symm,
      fun more further _ few => absurd few (Nat.not_le.mpr further)⟩
  | cons char rest hypothesis =>
    have value := Text.digitValue?_eq_some (digits char List.mem_cons_self)
    rw [readDigits, Bool.true_and, List.length_cons]
    by_cases full : scale = maxScale
    · rw [if_pos (beq_iff_eq.mpr full)]
      exact keepsDigits_roundOff digits small short (Or.inl full)
    · rw [if_neg (fun same => full (beq_iff_eq.mp same)), value]
      simp only [if_true]
      split_ifs with room
      · have further := hypothesis (List.forall_mem_cons.mp digits).2 (Or.inl rfl) room
          (show scale + 1 ≤ maxScale by omega)
        rw [Nat.ofDigitChars_cons, Nat.mul_comm 10]
        rwa [Nat.add_assoc, Nat.add_comm 1] at further
      · exact keepsDigits_roundOff digits small short (Or.inr (Nat.not_lt.mp room))

/-- Digits before the point that do not fit are refused. -/
theorem readDigits_tooMany {whole : List Char} (digits : ∀ char ∈ whole, Text.isDigit char)
    (rest : List Char) (small : coefficient < limit)
    (large : limit ≤ Nat.ofDigitChars 10 whole coefficient) :
    readDigits coefficient scale started false (whole ++ rest) = .error .tooManyDigits := by
  induction whole generalizing coefficient started with
  | nil => exact absurd large (Nat.not_le.mpr small)
  | cons char whole hypothesis =>
    rw [List.forall_mem_cons] at digits
    rw [Nat.ofDigitChars_cons, Nat.mul_comm] at large
    rw [List.cons_append, readDigits, Bool.false_and, if_neg Bool.false_ne_true,
      Text.digitValue?_eq_some digits.1]
    simp only [Bool.false_eq_true, if_false]
    split_ifs with room
    · exact hypothesis digits.2 room large
    · rfl

end Digits

/-! ### The most places with room -/

/-- The nearest number with so many places has a coefficient below the limit. -/
def HasRoom (places : Nat) (x : ℚ) : Prop := |x| * 10 ^ places < limit - 1 / 2

instance (places : Nat) (x : ℚ) : Decidable (HasRoom places x) :=
  inferInstanceAs (Decidable (_ < _))

/-- The most places, up to 28, that there is room for when a number is rounded to them. -/
def room (x : ℚ) : Nat := Nat.findGreatest (HasRoom · x) maxScale

variable {x : ℚ} {places more num len coefficient : Nat}

theorem HasRoom.mono (hasRoom : HasRoom more x) (fewer : places ≤ more) : HasRoom places x :=
  (mul_le_mul_of_nonneg_left (pow_le_pow_right₀ (by norm_num) fewer) (abs_nonneg x)).trans_lt hasRoom

theorem room_le (x : ℚ) : room x ≤ maxScale := Nat.findGreatest_le _

theorem le_room (short : places ≤ maxScale) (hasRoom : HasRoom places x) : places ≤ room x :=
  Nat.le_findGreatest short hasRoom

theorem hasRoom_room (hasRoom : HasRoom 0 x) : HasRoom (room x) x :=
  Nat.findGreatest_spec (P := (HasRoom · x)) (Nat.zero_le _) hasRoom

/-- There is room for the places that a decimal shows. -/
theorem hasRoom_toRat (decimal : Decimal) : HasRoom decimal.scale decimal.toRat := by
  have unit : (10 : ℚ) ^ decimal.scale ≠ 0 := pow_ne_zero _ (by norm_num)
  have small := decimal.coefficient_le
  rw [HasRoom, abs_toRat, div_mul_cancel₀ _ unit]
  linarith

theorem scale_le_room (decimal : Decimal) : decimal.scale ≤ room decimal.toRat :=
  le_room decimal.scale_le decimal.hasRoom_toRat

/-- The value of a decimal has no more places than there is room for. -/
theorem nearest_room_toRat (decimal : Decimal) :
    nearest (room decimal.toRat) decimal.toRat = decimal.toRat :=
  nearest_eq_self (toRat_mul_pow decimal.scale_le_room)

/-- A number given by its sign, its digits and how many of them stand after its point. -/
def ofDigits (negative : Bool) (num len : Nat) : ℚ := (if negative then -1 else 1) * (num / 10 ^ len)

variable (negative : Bool)

theorem ofDigits_eq (num len : Nat) : ofDigits negative num len = signed negative num / 10 ^ len := by
  unfold ofDigits signed
  split <;> push_cast <;> ring

theorem ofDigits_mul_pow (num len places : Nat) : ofDigits negative num len * 10 ^ places
    = (signed negative (num * 10 ^ places) : ℚ) / (10 ^ len : ℕ) := by
  rw [ofDigits_eq, ← signed_mul]
  push_cast
  ring

theorem nearest_ofDigits (num len places : Nat) : nearest places (ofDigits negative num len)
    = ofDigits negative (quotientHalfUp (num * 10 ^ places) (10 ^ len)) places := by
  have unit : 0 < 10 ^ len := Nat.pow_pos (by decide)
  rw [nearest, ofDigits_mul_pow, nearestWhole_div _ unit, roundHalfAway_signed _ _ unit, ofDigits_eq]

theorem hasRoom_ofDigits_iff : HasRoom places (ofDigits negative num len)
    ↔ quotientHalfUp (num * 10 ^ places) (10 ^ len) < limit := by
  have unit : 0 < 10 ^ len := Nat.pow_pos (by decide)
  have unit_rat : (0 : ℚ) < 10 ^ len := by positivity
  have nonneg : (0 : ℚ) ≤ num / 10 ^ len := by positivity
  unfold HasRoom ofDigits quotientHalfUp
  rw [abs_signed _ nonneg, Nat.div_lt_iff_lt_mul (by omega), div_mul_eq_mul_div, div_lt_iff₀ unit_rat]
  rw [← Nat.cast_lt (α := ℚ)]
  push_cast
  constructor <;> intro less <;> linarith

/-- **The digits that are kept are those of the nearest number with the most places.** If there is
room for further places all digits are kept, and only zeros come behind them. -/
theorem Keeps.toRat_eq (keeps : Keeps num len coefficient places) :
    HasRoom 0 (ofDigits negative num len)
      ∧ (ofParts negative coefficient places keeps.small keeps.short).toRat
        = nearest (room (ofDigits negative num len)) (ofDigits negative num len) := by
  have hasRoom : HasRoom places (ofDigits negative num len) :=
    (hasRoom_ofDigits_iff negative).mpr (keeps.digits ▸ keeps.small)
  have room_spec := hasRoom_room (hasRoom.mono (Nat.zero_le _))
  have full {more : Nat} (further : places < more) (few : more ≤ maxScale) (inside : more ≤ len) :
      ¬HasRoom more (ofDigits negative num len) := fun fits =>
    absurd ((hasRoom_ofDigits_iff negative).mp fits)
      (Nat.not_lt.mpr (keeps.most more further few inside))
  have value : (ofParts negative coefficient places keeps.small keeps.short).toRat
      = nearest places (ofDigits negative num len) := by
    rw [toRat_ofParts, nearest_ofDigits, ← keeps.digits]
    rfl
  refine ⟨hasRoom.mono (Nat.zero_le _), value.trans ?_⟩
  rcases Nat.eq_or_lt_of_le (le_room keeps.short hasRoom) with same | further
  · rw [← same]
  · have few := room_le (ofDigits negative num len)
    have inside : len < room (ofDigits negative num len) :=
      Nat.not_le.mp fun inside => full further few inside room_spec
    have all : len ≤ places := Nat.not_lt.mp fun less =>
      full less (inside.le.trans few) le_rfl (room_spec.mono inside.le)
    have whole {places : Nat} (all : len ≤ places) :
        nearest places (ofDigits negative num len) = ofDigits negative num len := by
      have split : (10 : ℚ) ^ places = 10 ^ len * 10 ^ (places - len) := by
        rw [← pow_add, Nat.add_sub_cancel' all]
      have units : ofDigits negative num len * 10 ^ places
          = (signed negative (num * 10 ^ (places - len)) : ℤ) := by
        rw [split, mul_comm (10 ^ len : ℚ), ← mul_assoc, ofDigits_mul_pow]
        push_cast
        exact div_mul_cancel₀ _ (by positivity)
      exact nearest_eq_self units
    rw [whole all, whole inside.le]

end Decimal

/-! ### Numerals -/

/-- A sign in front of a numeral, if there is one. -/
inductive NumeralSign where
  | none
  | plus
  | minus
  deriving DecidableEq

/-- A sign as it is written. -/
def NumeralSign.text : NumeralSign → List Char
  | none => []
  | plus => ['+']
  | minus => ['-']

/-- A numeral without an exponent: a sign if there is one, digits, and perhaps a point with any
number of digits after it. -/
structure PlainNumeral where
  sign : NumeralSign
  whole : List Char
  fraction : Option (List Char)
  digits : ∀ char ∈ whole ++ fraction.getD [], Text.isDigit char
  some_digit : whole ++ fraction.getD [] ≠ []

namespace PlainNumeral

/-- A numeral without its sign as it is written. -/
def magnitude (numeral : PlainNumeral) : List Char :=
  numeral.whole ++ numeral.fraction.elim [] ('.' :: ·)

/-- A numeral as it is written. -/
def text (numeral : PlainNumeral) : String :=
  String.ofList (numeral.sign.text ++ numeral.magnitude)

/-- What the digits of a numeral stand for without its point. -/
def significand (numeral : PlainNumeral) : Nat :=
  Nat.ofDigitChars 10 (numeral.whole ++ numeral.fraction.getD []) 0

/-- How many digits a numeral has after its point. -/
def places (numeral : PlainNumeral) : Nat := (numeral.fraction.getD []).length

/-- Whether a numeral has a minus sign. -/
def isNegative (numeral : PlainNumeral) : Bool := numeral.sign == .minus

/-- The number that a numeral stands for. -/
def toRat (numeral : PlainNumeral) : ℚ :=
  Decimal.ofDigits numeral.isNegative numeral.significand numeral.places

end PlainNumeral

namespace Decimal

/-- What a reader makes of a number: the decimal nearest to it, with the most places that there is
room for, or nothing where there is no room for the nearest whole number. -/
def ReadsNearest (x : ℚ) : Except NumeralError Decimal → Prop
  | .ok value => HasRoom 0 x ∧ value.toRat = nearest (room x) x
  | .error _ => ¬HasRoom 0 x

variable (numeral : PlainNumeral)

/-- The digits of a numeral are kept while they fit. -/
theorem keepsDigits_magnitude :
    KeepsDigits numeral.significand numeral.places (readDigits 0 0 false false numeral.magnitude) := by
  obtain ⟨sign, whole, fraction, digits, some_digit⟩ := numeral
  have whole_digits := fun char member => digits char (List.mem_append_left _ member)
  have fraction_digits := fun char member => digits char (List.mem_append_right whole member)
  have leading := ofDigitChars_div_pow fraction_digits (Nat.ofDigitChars 10 whole 0)
  simp only [PlainNumeral.significand, PlainNumeral.places, PlainNumeral.magnitude]
  rw [Nat.ofDigitChars_append]
  rcases Nat.lt_or_ge (Nat.ofDigitChars 10 whole 0) limit with small | large
  · rw [readDigits_run whole_digits _ 0 0 false false small (fun point => absurd point (by decide)),
      Bool.false_or, if_neg Bool.false_ne_true]
    cases fraction with
    | none =>
      rw [Option.getD_none, List.append_nil] at some_digit
      have started : (!whole.isEmpty) = true := by simp [some_digit]
      rw [started, Option.getD_none]
      have no_digit : ∀ char ∈ ([] : List Char), Text.isDigit char := by simp
      exact keepsDigits_fraction no_digit (Or.inl rfl) small (Nat.zero_le _)
    | some fraction =>
      have some_place : (!whole.isEmpty) = true ∨ fraction ≠ [] := by
        rw [Option.getD_some, ne_eq, List.append_eq_nil_iff, not_and_or] at some_digit
        simpa using some_digit
      have kept := keepsDigits_fraction fraction_digits some_place small (Nat.zero_le maxScale)
      rwa [Nat.zero_add] at kept
  · rw [readDigits_tooMany whole_digits _ (by decide) large]
    change limit ≤ quotientHalfUp _ _
    exact (leading ▸ large).trans (div_le_quotientHalfUp _ _)

/-- Digits with a sign are read as the decimal nearest to their number. -/
theorem readsNearest_readSigned {chars : List Char} (negative : Bool)
    (keeps : KeepsDigits num len (readDigits 0 0 false false chars)) :
    ReadsNearest (ofDigits negative num len) (readSigned negative chars) := by
  cases read : readDigits 0 0 false false chars with
  | ok parts =>
    obtain ⟨coefficient, places⟩ := parts
    rw [read] at keeps
    have kept : Keeps num len coefficient places := keeps
    rw [readSigned_eq negative read kept.small kept.short]
    exact kept.toRat_eq negative
  | error fault =>
    rw [read] at keeps
    have refused : readSigned negative chars = .error fault := by
      unfold readSigned
      rw [read]
      rfl
    rw [refused]
    refine fun hasRoom => absurd ((hasRoom_ofDigits_iff negative).mp hasRoom) (Nat.not_lt.mpr ?_)
    rw [pow_zero, Nat.mul_one]
    exact keeps

theorem magnitude_head : ∃ first rest,
    numeral.magnitude = first :: rest ∧ first ≠ '-' ∧ first ≠ '+' := by
  obtain ⟨sign, whole, fraction, digits, some_digit⟩ := numeral
  cases whole with
  | cons first rest =>
    have digit := digits first List.mem_cons_self
    refine ⟨first, _, rfl, ?_, ?_⟩ <;> rintro rfl <;> exact absurd digit (by decide)
  | nil =>
    cases fraction with
    | none => exact absurd rfl some_digit
    | some fraction => exact ⟨'.', fraction, rfl, by decide, by decide⟩

/-- A numeral's sign goes before its digits. -/
theorem readNumeral_text : readNumeral numeral.text.toList
    = readSigned numeral.isNegative numeral.magnitude := by
  obtain ⟨first, rest, shape, minus, plus⟩ := magnitude_head numeral
  unfold PlainNumeral.text PlainNumeral.isNegative
  rw [String.toList_ofList]
  cases numeral.sign with
  | none =>
    rw [shape]
    exact readNumeral_unsigned minus plus rest
  | plus => rfl
  | minus => rfl

/-- The characters in a numeral. -/
theorem mem_text {char : Char} (member : char ∈ numeral.text.toList) :
    char = '-' ∨ char = '+' ∨ char = '.' ∨ Text.isDigit char := by
  unfold PlainNumeral.text PlainNumeral.magnitude at member
  rw [String.toList_ofList, List.mem_append, List.mem_append] at member
  rcases member with sign | whole | fraction
  · cases shape : numeral.sign <;> rw [shape] at sign
    · cases sign
    · exact Or.inr (Or.inl (List.mem_singleton.mp sign))
    · exact Or.inl (List.mem_singleton.mp sign)
  · exact Or.inr (Or.inr (Or.inr (numeral.digits char (List.mem_append_left _ whole))))
  · cases shape : numeral.fraction with
    | none =>
      rw [shape] at fraction
      cases fraction
    | some places =>
      rw [shape] at fraction
      rcases List.mem_cons.mp fraction with point | digit
      · exact Or.inr (Or.inr (Or.inl point))
      · refine Or.inr (Or.inr (Or.inr (numeral.digits char (List.mem_append_right _ ?_))))
        rwa [shape]

/-- **A numeral is read as the decimal nearest to it**, with the most places that there is room
for. -/
theorem readsNearest_numeral : ReadsNearest numeral.toRat (read numeral.text) := by
  rw [read_eq_readNumeral, readNumeral_text]
  · exact readsNearest_readSigned _ (keepsDigits_magnitude numeral)
  · intro char member
    rcases mem_text numeral member with rfl | rfl | rfl | digit
    · rfl
    · rfl
    · rfl
    · exact isExponentMark_of_isDigit digit

theorem trimBlank_numeral : Text.trimBlank numeral.text = numeral.text := by
  refine trimBlank_eq_self fun char member => ?_
  rcases mem_text numeral member with rfl | rfl | rfl | digit
  · decide
  · decide
  · decide
  · exact isBlank_of_isDigit digit

/-- **The text of a decimal with zeros at its end is a numeral** of the same value, though it may
have more digits than a decimal has room for. -/
theorem exists_numeral_writeFixed (decimal : Decimal) (places : Nat) :
    ∃ numeral : PlainNumeral, numeral.text = decimal.writeFixed places
      ∧ numeral.toRat = decimal.toRat := by
  obtain ⟨whole, fraction, some_whole, len, digits, value, shape⟩ := writeParts_eq
    (decimal.coefficient * 10 ^ (places - decimal.scale)) (decimal.scale + (places - decimal.scale))
  let shown : Option (List Char) := if fraction = [] then none else some fraction
  have kept : shown.getD [] = fraction := by
    by_cases empty : fraction = [] <;> simp [shown, empty]
  let numeral : PlainNumeral := ⟨if decimal.negative then .minus else .none, whole, shown,
    kept.symm ▸ digits, by simp [some_whole]⟩
  refine ⟨numeral, ?_, ?_⟩
  · have magnitude : numeral.magnitude = writeParts
        (decimal.coefficient * 10 ^ (places - decimal.scale))
        (decimal.scale + (places - decimal.scale)) := by
      rw [shape, ← len]
      by_cases empty : fraction = [] <;> simp [numeral, PlainNumeral.magnitude, shown, empty]
    unfold PlainNumeral.text writeFixed
    rw [magnitude]
    cases negative : decimal.negative <;> simp [numeral, negative, NumeralSign.text]
  · have sign : numeral.isNegative = decimal.negative := by
      cases negative : decimal.negative <;> simp [numeral, PlainNumeral.isNegative, negative]
    unfold PlainNumeral.toRat PlainNumeral.significand PlainNumeral.places
    rw [sign]
    simp only [numeral, kept, value, len]
    rw [ofDigits_eq, ← signed_mul, pow_add]
    have unit : (10 : ℚ) ^ (places - decimal.scale) ≠ 0 := pow_ne_zero _ (by norm_num)
    push_cast
    exact mul_div_mul_right _ _ unit

end Decimal

end Paydesk
