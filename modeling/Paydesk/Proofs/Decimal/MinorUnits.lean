/-
**Minor units.**

The minor units of an amount are its coefficient, so they are right where the amount shows two
places, or is zero. However amounts are made, the result shows two places, is zero, or is too large
for any minor units, as long as there is room for the cents of everything that is added up or taken
off on the way. A difference of two amounts that show no places shows none either, however small it
is, and its minor units are wrong.

* `Amount.Made`: amounts that are made by the operations on amounts;
* `Amount.ShowsMost`: two places, nothing, or no room for another digit;
* `Amount.showsMost_of_add?`, `Amount.showsMost_of_sub?`, `Amount.showsMost_of_sum`: **what one
  operation makes**;
* `Amount.Made.showsMost`: **what any operations make**;
* `Amount.minor_units_of_made`: **minor units of amounts, however they are made**.
-/

import Paydesk.Proofs.Decimal.Cents
import Paydesk.Proofs.Decimal.Sum

namespace Paydesk.Amount

open Decimal (limit)

/-! ### How amounts are made -/

/-- Amounts that are made of decimals, cents and texts by the operations on amounts, where
everything that is added up or taken off on the way is as required. -/
inductive Made (required : Amount → Prop) : Amount → Prop
  | round (value : Decimal) : Made required (round value)
  | ofMinor (minor : Int64) : Made required (ofMinor minor)
  | read {text : String} {amount : Amount} (found : read text = .ok amount) : Made required amount
  | unset : Made required unset
  | neg {amount : Amount} (made : Made required amount) : Made required (-amount)
  | add {first second sum : Amount} (one : Made required first) (other : Made required second)
      (first_required : required first) (second_required : required second)
      (added : first.add second = .ok sum) : Made required sum
  | sub {first second rest : Amount} (one : Made required first) (other : Made required second)
      (first_required : required first) (second_required : required second)
      (taken : first.sub second = .ok rest) : Made required rest
  | sum {amounts : List Amount} {total : Amount} (each : ∀ amount ∈ amounts, Made required amount)
      (each_required : ∀ amount ∈ amounts, required amount)
      (parts_required : ∀ taken ∈ amounts.dropLast.inits, ∀ part,
        sum taken = .ok part → required part)
      (summed : sum amounts = .ok total) : Made required total
  | scale {amount product : Amount} {factor : Decimal} (made : Made required amount)
      (scaled : amount.scale? factor = some product) : Made required product
  | div {amount share : Amount} {divisor : Decimal} (made : Made required amount)
      (divided : amount.div? divisor = some share) : Made required share

/-- There is room for the cents of an amount in a coefficient. -/
def HasRoom (amount : Amount) : Prop := amount.minor.natAbs < limit

/-! ### Places that are shown -/

/-- Two places, or nothing at all. -/
def ShowsCents (value : Decimal) : Prop := value.scale = places ∨ value.isZero

/-- Two places, or nothing at all, or no room for another digit. -/
def ShowsMost (value : Decimal) : Prop := ShowsCents value ∨ limit ≤ value.coefficient * 10

variable {amount first second : Amount} {left right value : Decimal}

/-- Cents are shown where there is room for them. -/
theorem ShowsMost.of_hasRoom (shows_most : ShowsMost amount.value) (room : amount.HasRoom) :
    ShowsCents amount.value := by
  refine shows_most.elim id fun full => ?_
  refine Or.inl (Nat.le_antisymm amount.scale_le (Nat.not_lt.mp fun fewer => ?_))
  have digits : amount.minor.natAbs
      = amount.value.coefficient * 10 ^ (places - amount.value.scale) := by
    unfold minor Decimal.minor
    rw [Int.natAbs_mul, Int.natAbs_pow, Decimal.natAbs_signedCoefficient]
    rfl
  have grown : amount.value.coefficient * 10 ^ 1 ≤ amount.minor.natAbs := by
    rw [digits]
    exact Nat.mul_le_mul_left _ (Nat.pow_le_pow_right (by decide) (by omega))
  unfold HasRoom at room
  omega

theorem showsMost_round (value : Decimal) : ShowsMost (round value).value :=
  (round_scale value).imp_left Or.inl

theorem showsMost_of_add? (one : ShowsCents left) (other : ShowsCents right)
    (found : left.add? right = some value) : ShowsMost value := by
  unfold Decimal.add? at found
  split at found
  · cases found
    exact Or.inl other
  · rename_i left_digits
    split at found
    · cases found
      exact Or.inl one
    · rename_i right_digits
      have aligned := Decimal.fit_scale (Nat.pow_pos (by decide)) found
      rw [one.resolve_right left_digits, other.resolve_right right_digits, max_self] at aligned
      exact aligned.imp_left Or.inl

theorem showsMost_of_sub? (one : ShowsCents left) (other : ShowsCents right)
    (found : left.sub? right = some value) : ShowsMost value := by
  by_cases nothing : left.isZero ∧ right.isZero
  · cases (Decimal.sub?_of_isZero nothing.1 nothing.2).1.symm.trans found
    exact Or.inl other
  · have opposite : ShowsCents right.neg := other
    exact showsMost_of_add? one opposite (Decimal.sub?_eq_add?_neg nothing ▸ found)

/-! ### One operation after another -/

theorem value_of_add {sum : Amount} (added : first.add second = .ok sum) :
    first.value.add? second.value = some sum.value := by
  rcases add_cases first second with ⟨other, same, found⟩ | ⟨overflow, -⟩
  · cases same.symm.trans added
    exact found
  · nomatch overflow.symm.trans added

theorem value_of_sub {rest : Amount} (taken : first.sub second = .ok rest) :
    first.value.sub? second.value = some rest.value := by
  rcases sub_cases first second with ⟨other, same, found⟩ | ⟨overflow, -⟩
  · cases same.symm.trans taken
    exact found
  · nomatch overflow.symm.trans taken

/-- A total is made by one sum after another. -/
theorem sum_concat {amounts : List Amount} {total : Amount}
    (summed : sum (amounts ++ [amount]) = .ok total) :
    ∃ part, sum amounts = .ok part ∧ part.add amount = .ok total := by
  unfold sum at summed ⊢
  rw [List.foldlM_append] at summed
  cases folded : amounts.foldlM add zero with
  | error overflow =>
    rw [folded] at summed
    nomatch summed
  | ok part =>
    rw [folded] at summed
    refine ⟨part, rfl, ?_⟩
    change [amount].foldlM add part = .ok total at summed
    rw [List.foldlM_cons] at summed
    cases added : part.add amount with
    | error overflow =>
      rw [added] at summed
      nomatch summed
    | ok sum =>
      rw [added] at summed
      exact summed

/-- A total shows most where there is room for the amounts and for what they come to on the way. -/
theorem showsMost_of_sum {amounts : List Amount} {total : Amount}
    (each : ∀ amount ∈ amounts, ShowsCents amount.value)
    (parts : ∀ taken ∈ amounts.dropLast.inits, ∀ part, sum taken = .ok part → part.HasRoom)
    (summed : sum amounts = .ok total) : ShowsMost total.value := by
  induction amounts using List.reverseRecOn generalizing total with
  | nil =>
    cases summed
    exact Or.inl (Or.inl rfl)
  | append_singleton amounts amount hypothesis =>
    obtain ⟨part, part_summed, added⟩ := sum_concat summed
    rw [List.dropLast_concat] at parts
    rw [List.forall_mem_append] at each
    have part_shows : ShowsMost part.value := by
      refine hypothesis each.1 (fun taken isPrefix => parts taken ?_) part_summed
      rw [List.mem_inits] at isPrefix ⊢
      exact isPrefix.trans amounts.dropLast_prefix
    have part_room := parts amounts ((List.mem_inits _ _).mpr List.prefix_rfl) part part_summed
    exact showsMost_of_add? (part_shows.of_hasRoom part_room)
      (each.2 amount (List.mem_singleton_self amount)) (value_of_add added)

/-- **However amounts are made**, they show most, by induction on the operations: each of them is
given amounts that show their cents. -/
theorem Made.showsMost {required : Amount → Prop} (made : amount.Made required)
    (room : ∀ amount, required amount → amount.HasRoom) : ShowsMost amount.value := by
  induction made with
  | round value => exact showsMost_round value
  | ofMinor minor => exact Or.inl (Or.inl rfl)
  | read found =>
    unfold Amount.read at found
    split at found
    · cases found
      exact showsMost_round _
    · nomatch found
  | unset => exact Or.inl (Or.inr rfl)
  | neg _ shows_most => exact shows_most
  | add _ _ first_required second_required added first_shows second_shows =>
    exact showsMost_of_add? (first_shows.of_hasRoom (room _ first_required))
      (second_shows.of_hasRoom (room _ second_required)) (value_of_add added)
  | sub _ _ first_required second_required taken first_shows second_shows =>
    exact showsMost_of_sub? (first_shows.of_hasRoom (room _ first_required))
      (second_shows.of_hasRoom (room _ second_required)) (value_of_sub taken)
  | sum _ each_required parts_required summed each_shows =>
    refine showsMost_of_sum (fun amount member => ?_) (fun taken isPrefix part found => ?_) summed
    · exact (each_shows amount member).of_hasRoom (room _ (each_required amount member))
    · exact room _ (parts_required taken isPrefix part found)
  | scale _ scaled _ =>
    obtain ⟨product, -, rfl⟩ := Option.map_eq_some_iff.mp scaled
    exact showsMost_round product
  | div _ divided _ =>
    obtain ⟨quotient, -, rfl⟩ := Option.map_eq_some_iff.mp divided
    exact showsMost_round quotient

/-! ### Minor units -/

/-- Minor units are right where the amount shows two places, or is zero. -/
theorem toRat_eq_iff_of_toMinor? {minor : Int64} (fits : amount.toMinor? = some minor) :
    amount.toRat = minor.toInt / 100 ↔ ShowsCents amount.value := by
  have unit : (10 : ℚ) ^ amount.value.scale ≠ 0 := pow_ne_zero _ (by norm_num)
  rw [Text.toInt_of_toInt64? fits]
  change (amount.value.signedCoefficient : ℚ) / 10 ^ amount.value.scale = _ ↔ _
  constructor
  · intro same
    by_cases nothing : amount.value.isZero
    · exact Or.inr nothing
    · have digits : (amount.value.signedCoefficient : ℚ) ≠ 0 := by
        rw [Int.cast_ne_zero, ← Int.natAbs_ne_zero, Decimal.natAbs_signedCoefficient]
        exact fun zero => nothing (beq_iff_eq.mpr zero)
      rw [div_eq_div_iff unit (by norm_num)] at same
      have powers : (10 : ℚ) ^ places = 10 ^ amount.value.scale := by
        rw [← mul_left_cancel₀ digits same]
        norm_num [places]
      exact Or.inl (pow_right_injective₀ (by norm_num) (by norm_num) powers.symm)
  · rintro (two | nothing)
    · rw [two]
      norm_num [places]
    · rw [Decimal.signedCoefficient_of_isZero nothing, Int.cast_zero, zero_div, zero_div]

/-- What has no minor units is no number of cents of 64 bits. -/
theorem toRat_ne_of_toMinor?_eq_none (missing : amount.toMinor? = none) (minor : Int64) :
    amount.toRat ≠ minor.toInt / 100 := by
  intro same
  have cents : amount.value.signedCoefficient * 10 ^ (places - amount.value.scale)
      = minor.toInt := by
    have minor_eq : (amount.minor : ℚ) = minor.toInt := by
      rw [toRat_eq_minor] at same
      linarith
    exact_mod_cast minor_eq
  have unit : (1 : Int) ≤ 10 ^ (places - amount.value.scale) := one_le_pow₀ (by norm_num)
  have lower := minor.le_toInt
  have upper := minor.toInt_lt
  have bound : Nat.pow 2 63 = 9223372036854775808 := by decide
  have fits : Text.fitsInt64 amount.value.signedCoefficient := by
    simp only [Text.fitsInt64, Bool.and_eq_true, decide_eq_true_eq, bound]
    rcases le_total 0 amount.value.signedCoefficient with above | below
    · have grown := le_mul_of_one_le_right above unit
      omega
    · have grown := mul_le_of_one_le_right below unit
      omega
  unfold toMinor? Text.toInt64? at missing
  rw [if_pos fits] at missing
  exact absurd missing (Option.some_ne_none _)

/-- **Minor units of amounts, however they are made.** For every amount that the operations make:

* if there is room for the cents of everything that is added up or taken off on the way, its minor
  units are its value in cents;
* in general they are its value with the places that it shows, which is its value in cents if and
  only if it shows two places or is zero;
* if it has none, its value is no number of cents of 64 bits. -/
theorem minor_units_of_made {required : Amount → Prop} (made : amount.Made required) :
    ((∀ amount, required amount → amount.HasRoom) →
        ∀ minor, amount.toMinor? = some minor → amount.toRat = minor.toInt / 100)
      ∧ (∀ minor, amount.toMinor? = some minor →
        amount.toRat = minor.toInt / 10 ^ amount.value.scale
          ∧ (amount.toRat = minor.toInt / 100 ↔ ShowsCents amount.value))
      ∧ (amount.toMinor? = none → ∀ minor : Int64, amount.toRat ≠ minor.toInt / 100) := by
  refine ⟨fun room minor fits => ?_, fun minor fits => ⟨?_, toRat_eq_iff_of_toMinor? fits⟩,
    toRat_ne_of_toMinor?_eq_none⟩
  · refine (toRat_eq_iff_of_toMinor? fits).mpr ((made.showsMost room).elim id fun full => ?_)
    exact absurd (coefficient_lt_of_toMinor? fits) full.not_gt
  · rw [Text.toInt_of_toInt64? fits]
    rfl

/-- A refund taken off a payment; and the largest amount less another one, five below it: neither
shows places, so the five do not, and their minor units are five. -/
theorem minor_units_of_made_fiveBelow :
    let most := round ⟨false, limit - 1, 0, by decide, by decide⟩
    let below := round ⟨false, limit - 6, 0, by decide, by decide⟩
    let five : Amount := ⟨⟨false, 5, 0, by decide, by decide⟩, by decide⟩
    let rest := ofMinor 6950
    ((ofMinor 10000).sub (ofMinor 3050) = .ok rest ∧ rest.Made HasRoom
        ∧ rest.toMinor? = some 6950 ∧ rest.toRat = (6950 : Int64).toInt / 100)
      ∧ (most.sub below = .ok five ∧ five.Made (fun _ => True) ∧ five.toMinor? = some 5
        ∧ five.toRat = 5 ∧ five.toRat ≠ (5 : Int64).toInt / 100)
      ∧ most.toMinor? = none ∧ most.toRat ≠ (-1 : Int64).toInt / 100 := by
  intro most below five rest
  have taken : (ofMinor 10000).sub (ofMinor 3050) = .ok rest := by decide +kernel
  have made_rest : rest.Made HasRoom :=
    .sub (.ofMinor 10000) (.ofMinor 3050) (by unfold HasRoom; decide) (by unfold HasRoom; decide)
      taken
  have rest_fits : rest.toMinor? = some 6950 := by decide
  have taken_five : most.sub below = .ok five := by decide +kernel
  have made_five : five.Made fun _ => True := .sub (.round _) (.round _) trivial trivial taken_five
  have five_fits : five.toMinor? = some 5 := by decide
  have made_most : most.Made fun _ => True := .round _
  have most_missing : most.toMinor? = none := by decide
  obtain ⟨value_eq, right_iff⟩ := (minor_units_of_made made_five).2.1 5 five_fits
  refine ⟨⟨taken, made_rest, rest_fits, ?_⟩, ⟨taken_five, made_five, five_fits, ?_, ?_⟩,
    most_missing, (minor_units_of_made made_most).2.2 most_missing (-1)⟩
  · exact (minor_units_of_made made_rest).1 (fun _ room => room) _ rest_fits
  · rw [value_eq, (by decide : (5 : Int64).toInt = 5)]
    norm_num [five]
  · intro right
    have shown := right_iff.mp right
    unfold ShowsCents at shown
    revert shown
    decide

end Paydesk.Amount
