/-
**Amounts of numerals.**

The amount of a numeral is rounded twice: its digits to as many places as there is room for, and
then to cents. The first rounding can carry a number that falls short of a half cent by less than
its last place up to the half cent, and the second one carries it on to the cent. Nothing else comes
of it.

* `half_le_nearest_iff`, `nearest_nearest`: **rounding to many places and then to two**;
* `Amount.ReadOf`: what the amount of a number has to do with the number;
* `Amount.readOf_round`: the decimal nearest to a number, rounded to cents;
* `Amount.exists_read_write`: **an amount is read of its text**;
* `Amount.read_numeral`: **which numerals are amounts, and which amounts they are**;
* `Amount.read_numeral_shortOfHalfCent`: **a numeral below a half cent** that is read as a cent.
-/

import Paydesk.Proofs.Decimal.Numeral

namespace Paydesk

open Decimal (limit maxScale room HasRoom ReadsNearest)

/-! ### Rounding to many places and then to two -/

section Twice

variable {x : ℚ} {places : Nat}

/-- The whole numbers of units up to the nearest one. -/
theorem le_nearest_iff (nonneg : 0 ≤ x) (whole : ℤ) :
    (whole : ℚ) ≤ nearest places x * 10 ^ places ↔ (whole : ℚ) ≤ x * 10 ^ places + 1 / 2 := by
  have unit : (10 : ℚ) ^ places ≠ 0 := pow_ne_zero _ (by norm_num)
  rw [nearest, div_mul_cancel₀ _ unit, nearestWhole_of_nonneg (by positivity), Int.cast_le,
    Int.le_floor]

/-- A half cent has three places, so rounding to three places or more reaches it from half a unit
below. -/
theorem half_le_nearest_iff (three : 3 ≤ places) (nonneg : 0 ≤ x) (count : ℕ) :
    count + 1 / 2 ≤ nearest places x * 10 ^ 2
      ↔ count + 1 / 2 ≤ (x + 1 / (2 * 10 ^ places)) * 10 ^ 2 := by
  obtain ⟨more, rfl⟩ := Nat.exists_eq_add_of_le three
  have fine : (0 : ℚ) < 10 * 10 ^ more := by positivity
  have split : (10 : ℚ) ^ (3 + more) = 10 ^ 2 * (10 * 10 ^ more) := by ring
  have scaled (low high : ℚ) : low ≤ high ↔ low * (10 * 10 ^ more) ≤ high * (10 * 10 ^ more) :=
    (mul_le_mul_iff_left₀ fine).symm
  have half : (count + 1 / 2 : ℚ) * (10 * 10 ^ more) = (((2 * count + 1) * 5 * 10 ^ more : ℤ) : ℚ) := by
    push_cast
    ring
  have slack : (x + 1 / (2 * 10 ^ (3 + more))) * 10 ^ 2 * (10 * 10 ^ more)
      = x * 10 ^ (3 + more) + 1 / 2 := by
    rw [split]
    field_simp
  rw [scaled, half, mul_assoc (nearest _ x), ← split, le_nearest_iff nonneg, ← half, ← slack,
    ← scaled]

/-- **Rounding to three places or more and then to two** is rounding to two at once, but for a
number that falls short of a half by no more than half a unit in the last of the places: it ends up
a hundredth further from zero. -/
theorem nearest_nearest (three : 3 ≤ places) (x : ℚ) :
    (¬FallsShort 2 (1 / (2 * 10 ^ places)) x → nearest 2 (nearest places x) = nearest 2 x)
      ∧ (FallsShort 2 (1 / (2 * 10 ^ places)) x →
        |nearest 2 (nearest places x)| = |nearest 2 x| + 1 / 10 ^ 2) := by
  have fine : 1 / (2 * 10 ^ places) * 10 ^ 2 < (1 : ℚ) := by
    have powers : (10 : ℚ) ^ 3 ≤ 10 ^ places := pow_le_pow_right₀ (by norm_num) three
    rw [div_mul_eq_mul_div, div_lt_one (by positivity)]
    linarith
  have reach (count : ℕ) := half_le_nearest_iff three (abs_nonneg x) count
  rw [← abs_nearest] at reach
  have keeps (count : ℕ) (reached : count + 1 / 2 ≤ |x| * 10 ^ 2) :
      count + 1 / 2 ≤ |nearest places x| * 10 ^ 2 := by
    have slack : (0 : ℚ) ≤ 1 / (2 * 10 ^ places) := by positivity
    exact (reach count).mpr (reached.trans (by linarith))
  have either := nearest_eq_or_fallsShort nearest_nonneg
    (fun negative => by
      have opposite : 0 ≤ nearest places (-x) := nearest_nonneg (neg_nonneg.mpr negative)
      rw [nearest_neg] at opposite
      linarith)
    (abs_nearest_sub_le places x) fine keeps
  refine ⟨fun apart => either.resolve_right fun short => apart short.1, fun short => ?_⟩
  refine (either.resolve_left fun same => ?_).2
  obtain ⟨count, below, close⟩ := short
  have reached := (reach count).mpr close
  have carried : ((count + 1 : ℤ) : ℚ) ≤ |nearest 2 x| * 10 ^ 2 := by
    rw [← same, abs_nearest, le_nearest_iff (abs_nonneg _)]
    push_cast
    linarith
  rw [abs_nearest, le_nearest_iff (abs_nonneg x)] at carried
  push_cast at carried
  linarith

/-- A number with no more than two places has its hundredths. -/
theorem nearest_nearest_of_le (few : places ≤ 2) (x : ℚ) :
    nearest 2 (nearest places x) = nearest places x := by
  have split : (10 : ℚ) ^ 2 = 10 ^ places * 10 ^ (2 - places) := by
    rw [← pow_add, Nat.add_sub_cancel' few]
  have hundredths : nearest places x * 10 ^ 2
      = ((nearestWhole (x * 10 ^ places) * 10 ^ (2 - places) : ℤ) : ℚ) := by
    rw [split, nearest]
    push_cast
    field_simp
  exact nearest_eq_self hundredths

end Twice

namespace Amount

/-! ### Amounts of numbers -/

/-- **An amount is read of a number**:

* it is the number rounded to the most places that there is room for, and then to cents;
* so it is the number rounded to cents once, where some decimal is the number;
* with room for three places or more it is the number rounded to cents once, unless the number falls
  short of a half cent by no more than half a unit in the last of the places;
* then it is a cent further from zero;
* with room for two places or fewer it is the number rounded to these places once. -/
structure ReadOf (amount : Amount) (exact : ℚ) : Prop where
  twice : amount.toRat = nearest 2 (nearest (room exact) exact)
  once : ∀ decimal : Decimal, decimal.toRat = exact → amount.toRat = nearest 2 exact
  fine : 3 ≤ room exact → ¬FallsShort 2 (1 / (2 * 10 ^ room exact)) exact →
    amount.toRat = nearest 2 exact
  carried : 3 ≤ room exact → FallsShort 2 (1 / (2 * 10 ^ room exact)) exact →
    |amount.toRat| = |nearest 2 exact| + 1 / 10 ^ 2
  coarse : room exact ≤ 2 → amount.toRat = nearest (room exact) exact

/-- The decimal nearest to a number, rounded to cents, is read of the number. -/
theorem readOf_round {value : Decimal} {exact : ℚ} (near : value.toRat = nearest (room exact) exact) :
    (round value).ReadOf exact := by
  have twice : (round value).toRat = nearest 2 (nearest (room exact) exact) := by
    rw [toRat_round, near]
  refine ⟨twice, ?_, fun three apart => ?_, fun three short => ?_, fun few => ?_⟩
  · rintro decimal rfl
    rw [twice, decimal.nearest_room_toRat]
  · rw [twice, (nearest_nearest three exact).1 apart]
  · rw [twice, (nearest_nearest three exact).2 short]
  · rw [twice, nearest_nearest_of_le few]

variable {amount : Amount}

theorem read_eq_ok_iff {text : String} (visible : Text.trimBlank text = text) :
    read text = .ok amount ↔ ∃ value, Decimal.read text = .ok value ∧ round value = amount := by
  unfold read
  rw [visible]
  cases Decimal.read text <;> simp

theorem readAmount?_text_eq_some_iff {text : String} :
    Json.readAmount? (.text text) = some amount
      ↔ ∃ value, Decimal.read text = .ok value ∧ round value = amount := by
  change Option.map round (Decimal.read text).toOption = some amount ↔ _
  cases Decimal.read text <;> simp [Except.toOption]

/-- **An amount is read of its text** with the same value, however large it is. -/
theorem exists_read_write (amount : Amount) :
    ∃ back, read amount.write = .ok back ∧ back.sameValue amount := by
  obtain ⟨numeral, text, same⟩ := amount.value.exists_numeral_writeFixed places
  have reads := Decimal.readsNearest_numeral numeral
  rw [same] at reads
  cases result : Decimal.read numeral.text with
  | error =>
    rw [result] at reads
    exact absurd (amount.value.hasRoom_toRat.mono (Nat.zero_le _)) reads
  | ok value =>
    rw [result] at reads
    have value_eq : value.toRat = amount.value.toRat :=
      reads.2.trans amount.value.nearest_room_toRat
    refine ⟨round value, ?_, Decimal.sameValue_iff_toRat.mpr ?_⟩
    · change read (amount.value.writeFixed places) = _
      rw [← text]
      exact (read_eq_ok_iff (Decimal.trimBlank_numeral numeral)).mpr ⟨value, result, rfl⟩
    · calc (round value).toRat = nearest 2 value.toRat := toRat_round value
        _ = nearest 2 amount.value.toRat := by rw [value_eq]
        _ = amount.value.toRat := nearest_eq_self (Decimal.toRat_mul_pow amount.scale_le)

/-- **Amounts of numerals.** For every numeral, however many digits it has:

* it is an amount if and only if its number is below `2 ^ 96 - 1/2` in magnitude;
* it is the same amount on its own and in a document;
* this amount is read of the number that the numeral stands for. -/
theorem read_numeral (numeral : PlainNumeral) :
    ((∃ amount, read numeral.text = .ok amount) ↔ |numeral.toRat| < limit - 1 / 2)
      ∧ ∀ amount, (read numeral.text = .ok amount
          ↔ Json.readAmount? (.text numeral.text) = some amount)
        ∧ (read numeral.text = .ok amount → amount.ReadOf numeral.toRat) := by
  have reads := Decimal.readsNearest_numeral numeral
  have found (amount : Amount) : read numeral.text = .ok amount
      ↔ ∃ value, Decimal.read numeral.text = .ok value ∧ round value = amount :=
    read_eq_ok_iff (Decimal.trimBlank_numeral numeral)
  have accepts : HasRoom 0 numeral.toRat ↔ |numeral.toRat| < limit - 1 / 2 := by
    rw [HasRoom, pow_zero, mul_one]
  refine ⟨?_, fun amount => ⟨(found amount).trans readAmount?_text_eq_some_iff.symm, ?_⟩⟩
  · rw [← accepts]
    cases result : Decimal.read numeral.text with
    | ok value =>
      rw [result] at reads
      exact ⟨fun _ => reads.1, fun _ => ⟨round value, (found _).mpr ⟨value, result, rfl⟩⟩⟩
    | error fault =>
      rw [result] at reads
      refine ⟨?_, fun hasRoom => absurd hasRoom reads⟩
      rintro ⟨amount, read⟩
      obtain ⟨value, accepted, -⟩ := (found amount).mp read
      cases result.symm.trans accepted
  · intro read
    obtain ⟨value, accepted, rfl⟩ := (found amount).mp read
    rw [accepted] at reads
    exact readOf_round reads.2

/-- A numeral with thirty-two places that is a little below a half cent. -/
def shortOfHalfCent : PlainNumeral :=
  ⟨.none, ['0'], some "00499999999999999999999999999999".toList,
    List.all_eq_true.mp (by decide), by decide⟩

theorem toRat_shortOfHalfCent :
    shortOfHalfCent.toRat = 499999999999999999999999999999 / 10 ^ 32 := by
  have digits : shortOfHalfCent.significand = 499999999999999999999999999999 := by decide
  have places : shortOfHalfCent.places = 32 := by decide
  have sign : shortOfHalfCent.isNegative = false := by decide
  unfold PlainNumeral.toRat Decimal.ofDigits
  rw [digits, places, sign, if_neg Bool.false_ne_true, one_mul]
  norm_num

/-- **A numeral below a half cent.** Rounded to 28 places it is a half cent and from there a cent,
where rounded at once it is nothing. -/
theorem read_numeral_shortOfHalfCent :
    shortOfHalfCent.text = "0.00499999999999999999999999999999"
      ∧ shortOfHalfCent.toRat < 1 / 200 ∧ nearest 2 shortOfHalfCent.toRat = 0
      ∧ ∃ amount, read shortOfHalfCent.text = .ok amount ∧ amount = .ofMinor 1
        ∧ |amount.toRat| = |nearest 2 shortOfHalfCent.toRat| + 1 / 10 ^ 2 := by
  have value := toRat_shortOfHalfCent
  have below : shortOfHalfCent.toRat < 1 / 200 := by
    rw [value]
    norm_num
  have nothing : nearest 2 shortOfHalfCent.toRat = 0 := by
    have whole : nearestWhole (shortOfHalfCent.toRat * 10 ^ 2) = 0 := by
      rw [value, nearestWhole_of_nonneg (by norm_num), Int.floor_eq_iff]
      norm_num
    rw [nearest, whole, Int.cast_zero, zero_div]
  have most : room shortOfHalfCent.toRat = 28 := by
    refine le_antisymm (Decimal.room_le _) (Decimal.le_room le_rfl ?_)
    rw [HasRoom, value]
    norm_num [limit, abs_of_pos]
  have short : FallsShort 2 (1 / (2 * 10 ^ room shortOfHalfCent.toRat)) shortOfHalfCent.toRat := by
    rw [most, value]
    exact ⟨0, by norm_num [abs_of_pos], by norm_num [abs_of_pos]⟩
  have cent : read shortOfHalfCent.text = .ok (.ofMinor 1) := by decide +kernel
  have readOf := ((read_numeral shortOfHalfCent).2 (.ofMinor 1)).2 cent
  exact ⟨by decide, below, nothing, .ofMinor 1, cent, rfl, readOf.carried (by omega) short⟩

end Amount

end Paydesk
