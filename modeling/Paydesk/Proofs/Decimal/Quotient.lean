/-
**The quotient of two decimals.**

A division finds as many places as there is room for, and rounds once at the end. So its result is
the exact fraction, or it lies within half a unit of the last place and has 28 places or a
coefficient of which nearly all bits are used.

* `Decimal.IsQuotient`: a coefficient with places as near to a fraction as there is room for;
* `Division.run?_succ`, `Division.run?_succ_below`: one step of a division, behind the point and
  before it;
* `Division.run?_spec`, `Division.run?_below_spec`: **a division ends with such a coefficient**, by
  induction on its steps;
* `Division.run?_exact`: **a division finds the fraction itself where it has room**;
* `shorten_spec`: zeros that are dropped do not change the value;
* `Decimal.div?_spec`, `Decimal.div?_exact`: **the quotient by a whole number**.
-/

import Paydesk.Decimal.Quotient
import Paydesk.Proofs.Binary64.Rounding

namespace Paydesk.Decimal

theorem div_le_quotientHalfEven (num den : Nat) : num / den ≤ quotientHalfEven num den := by
  unfold quotientHalfEven
  simp only
  split
  · exact Nat.le_refl _
  · split
    · exact Nat.le_succ _
    · exact Nat.le_add_right _ _

theorem quotientHalfEven_le (num den : Nat) : quotientHalfEven num den ≤ num / den + 1 := by
  have bit := Nat.mod_lt (num / den) (by decide : 2 > 0)
  unfold quotientHalfEven
  simp only
  split
  · exact Nat.le_succ _
  · split
    · exact Nat.le_refl _
    · omega

/-- A coefficient with so many places is a fraction, or it is as near to it as there is room for. -/
structure IsQuotient (exact : ℚ) (coefficient places : Nat) : Prop where
  upper : 2 * (exact * 10 ^ places) ≤ 2 * coefficient + 1
  lower : 2 * (coefficient : ℚ) ≤ 2 * (exact * 10 ^ places) + 1
  small : coefficient < limit
  short : places ≤ maxScale
  full : coefficient = exact * 10 ^ places ∨ places = maxScale ∨ limit ≤ 10 * (coefficient + 1)

/-! ### Divisions -/

/-- The places that there is room for, and that there is none for another one. -/
theorem roomFor_spec {coefficient : Nat} (small : coefficient < limit) (most : Nat) :
    roomFor coefficient most ≤ most
      ∧ coefficient * 10 ^ roomFor coefficient most < limit
      ∧ (roomFor coefficient most < most →
        limit ≤ coefficient * 10 ^ (roomFor coefficient most + 1)) := by
  induction most with
  | zero => simpa [roomFor] using small
  | succ most hypothesis =>
    obtain ⟨bound, fits, stuck⟩ := hypothesis
    unfold roomFor
    rw [Nat.pow_eq]
    split
    · rename_i room
      exact ⟨Nat.le_refl _, room, fun less => absurd less (Nat.lt_irrefl _)⟩
    · rename_i none
      refine ⟨Nat.le_succ_of_le bound, fits, fun less => ?_⟩
      rcases Nat.lt_or_eq_of_le bound with fewer | same
      · exact stuck fewer
      · rw [same]
        exact Nat.not_lt.mp none

/-- A fraction at some places is rounded there, or one place before. -/
theorem settle?_spec {num den scale : Nat} (positive : 0 < den) (bound : num < 2 * limit * den)
    (short : scale ≤ maxScale) (whole : scale = 0 → quotientHalfEven num den < limit)
    (stuck : scale = maxScale ∨ limit ≤ 10 * (quotientHalfEven num den + 1)) :
    ∃ coefficient places : Nat, settle? num den scale = some (coefficient, (places : Int))
      ∧ IsQuotient ((num : ℚ) / den / 10 ^ scale) coefficient places := by
  have unit : (10 : ℚ) ^ scale ≠ 0 := pow_ne_zero _ (by norm_num)
  unfold settle?
  simp only
  by_cases small : quotientHalfEven num den < limit
  · obtain ⟨upper, lower, -⟩ := quotientHalfEven_near num positive
    refine ⟨_, scale, if_pos small, ?_, ?_, small, short, Or.inr stuck⟩
    · rwa [div_mul_cancel₀ _ unit]
    · rwa [div_mul_cancel₀ _ unit]
  · have places : scale ≠ 0 := fun none => small (whole none)
    obtain ⟨before, rfl⟩ := Nat.exists_eq_succ_of_ne_zero places
    obtain ⟨upper, lower, -⟩ := quotientHalfEven_near num (Nat.mul_pos (by decide : 0 < 10) positive)
    have exact_eq : (num : ℚ) / den / 10 ^ (before + 1) * 10 ^ before
        = num / ((10 * den : ℕ) : ℚ) := by
      have den_ne : (den : ℚ) ≠ 0 := by exact_mod_cast positive.ne'
      rw [pow_succ]
      push_cast
      field_simp
    have whole_part : num / den < 2 * limit :=
      Nat.div_lt_of_lt_mul (by rw [Nat.mul_comm]; exact bound)
    have tenth : num / (10 * den) = num / den / 10 := by
      rw [Nat.mul_comm, Nat.div_div_eq_div_mul]
    have above := quotientHalfEven_le num (10 * den)
    have below := div_le_quotientHalfEven num (10 * den)
    have near := quotientHalfEven_le num den
    rw [tenth] at above below
    have large : 10 < limit := by decide
    refine ⟨quotientHalfEven num (10 * den), before, ?_, ?_, ?_, by omega, by omega,
      Or.inr (Or.inr (by omega))⟩
    · rw [if_neg small, if_neg (by omega)]
      simp
    · rwa [exact_eq]
    · rwa [exact_eq]

/-- The numerator after some more places, and its whole part. -/
theorem extended_spec {quotient remainder divisor places : Nat} (proper : remainder < divisor)
    (fits : quotient * 10 ^ places < limit) (few : places ≤ 9) :
    (quotient * divisor + remainder) * 10 ^ places < 2 * limit * divisor
      ∧ (quotient * divisor + remainder) * 10 ^ places / divisor
        = quotient * 10 ^ places + remainder * 10 ^ places / divisor := by
  have positive : 0 < divisor := Nat.lt_of_le_of_lt (Nat.zero_le _) proper
  have shifted : (quotient * divisor + remainder) * 10 ^ places
      = divisor * (quotient * 10 ^ places) + remainder * 10 ^ places := by ring
  rw [shifted]
  constructor
  · have power : 10 ^ places ≤ limit :=
      Nat.le_trans (Nat.pow_le_pow_right (by decide) few) (by decide)
    have whole : divisor * (quotient * 10 ^ places) < divisor * limit :=
      Nat.mul_lt_mul_of_pos_left fits positive
    have rest : remainder * 10 ^ places ≤ divisor * limit :=
      Nat.mul_le_mul (Nat.le_of_lt proper) power
    have doubled : 2 * limit * divisor = divisor * limit + divisor * limit := by ring
    omega
  · exact Nat.mul_add_div positive _ _

/-- A division of which nothing remains is at its end. -/
theorem Division.run?_of_exact (divisor steps quotient scale : Nat) :
    run? divisor (steps + 1) ⟨quotient, 0, scale⟩ = some (quotient, (scale : Int)) := by
  unfold run?
  simp

/-- **One step of a division**: all the places that there is room for are found at once. -/
theorem Division.run?_succ {quotient remainder scale places : Nat} (divisor steps : Nat)
    (inexact : remainder ≠ 0) (small : quotient < limit)
    (room : roomFor quotient (min 9 (maxScale - scale)) = places) :
    run? divisor (steps + 1) ⟨quotient, remainder, scale⟩ =
      if places = 0 then settle? (quotient * divisor + remainder) divisor scale
      else
        if limit ≤ quotient * 10 ^ places + remainder * 10 ^ places / divisor then
          settle? ((quotient * divisor + remainder) * 10 ^ places) divisor
            ((scale + places : ℕ) : Int)
        else
          run? divisor steps
            ⟨quotient * 10 ^ places + remainder * 10 ^ places / divisor,
              remainder * 10 ^ places % divisor, ((scale + places : ℕ) : Int)⟩ := by
  have most : ((maxScale : Int) - (scale : Int)).toNat = maxScale - scale := by omega
  have fits := (roomFor_spec small (min 9 (maxScale - scale))).2.1
  have unfinished : (remainder == 0) = false := beq_false_of_ne inexact
  have shifted : quotient * 10 ^ places * divisor + remainder * 10 ^ places
      = (quotient * divisor + remainder) * 10 ^ places := by ring
  have scale_eq : (scale : Int) + places = ((scale + places : ℕ) : Int) := by push_cast; rfl
  have unsigned : decide (((scale + places : ℕ) : Int) < 0) = false := decide_eq_false (by omega)
  conv_lhs => rw [run?]
  simp only [unfinished, Bool.false_and, Bool.false_eq_true, if_false, Bool.not_false, Bool.true_and,
    most, Nat.pow_eq, room] at fits ⊢
  by_cases none : places = 0
  · simp [none]
  · simp only [beq_false_of_ne none, Bool.false_and, Bool.false_eq_true, if_false, none,
      Nat.not_le.mpr fits, scale_eq, unsigned, Bool.and_false, shifted]

/-- The whole part and the remainder after some more places make up the same fraction. -/
theorem extended_eq (quotient remainder divisor places : Nat) :
    (quotient * 10 ^ places + remainder * 10 ^ places / divisor) * divisor
        + remainder * 10 ^ places % divisor = (quotient * divisor + remainder) * 10 ^ places := by
  have shifted : quotient * 10 ^ places * divisor + remainder * 10 ^ places
      = (quotient * divisor + remainder) * 10 ^ places := by ring
  rw [Nat.add_mul, Nat.add_assoc, Nat.div_add_mod', shifted]

/-- **A division ends with a coefficient as near to the fraction as there is room for**, by
induction on its steps. It is there when nothing remains, and settled when there is no place left or
no room for one; else as many places as there is room for are found at once. -/
theorem Division.run?_spec {divisor : Nat} {steps : Nat} :
    ∀ {quotient remainder scale : Nat}, quotient < limit → remainder < divisor →
      scale ≤ maxScale → (scale = 0 → remainder = 0 ∨ quotient + 1 < limit) →
      maxScale - scale < steps →
      ∃ coefficient places : Nat,
        run? divisor steps ⟨quotient, remainder, scale⟩ = some (coefficient, (places : Int))
        ∧ IsQuotient (((quotient * divisor + remainder : ℕ) : ℚ) / divisor / 10 ^ scale) coefficient
          places := by
  induction steps with
  | zero => exact fun _ _ _ _ enough => absurd enough (Nat.not_lt_zero _)
  | succ steps hypothesis =>
    intro quotient remainder scale small proper short room enough
    have positive : 0 < divisor := Nat.lt_of_le_of_lt (Nat.zero_le _) proper
    have divisor_ne : (divisor : ℚ) ≠ 0 := by exact_mod_cast positive.ne'
    have unit : (10 : ℚ) ^ scale ≠ 0 := pow_ne_zero _ (by norm_num)
    by_cases exact_end : remainder = 0
    · subst exact_end
      have exact_eq : ((quotient * divisor + 0 : ℕ) : ℚ) / divisor / 10 ^ scale * 10 ^ scale
          = quotient := by
        rw [div_mul_cancel₀ _ unit]
        push_cast
        rw [add_zero, mul_div_cancel_right₀ _ divisor_ne]
      refine ⟨quotient, scale, run?_of_exact _ _ _ _, ?_, ?_, small, short, Or.inl exact_eq.symm⟩
      · rw [exact_eq]; linarith
      · rw [exact_eq]; linarith
    · obtain ⟨bound, fits, stuck⟩ := roomFor_spec small (min 9 (maxScale - scale))
      rw [run?_succ divisor steps exact_end small rfl]
      generalize roomFor quotient (min 9 (maxScale - scale)) = places at *
      obtain ⟨numerator, whole_part⟩ := extended_spec proper fits (by omega)
      have above := quotientHalfEven_le ((quotient * divisor + remainder) * 10 ^ places) divisor
      have below := div_le_quotientHalfEven ((quotient * divisor + remainder) * 10 ^ places) divisor
      by_cases none : places = 0
      · subst none
        rw [pow_zero, Nat.mul_one] at numerator above below whole_part
        rw [Nat.mul_one, Nat.mul_one, Nat.div_eq_of_lt proper, Nat.add_zero] at whole_part
        rw [if_pos rfl]
        exact settle?_spec positive numerator short (by omega) (by omega)
      · have same : (((quotient * divisor + remainder) * 10 ^ places : ℕ) : ℚ) / divisor
            / 10 ^ (scale + places) = ((quotient * divisor + remainder : ℕ) : ℚ) / divisor
              / 10 ^ scale := by
          push_cast
          rw [pow_add]
          field_simp
        rw [if_neg none, ← same]
        by_cases full : limit ≤ quotient * 10 ^ places + remainder * 10 ^ places / divisor
        · rw [if_pos full]
          exact settle?_spec positive numerator (by omega) (by omega) (by omega)
        · have further := hypothesis (Nat.not_le.mp full)
            (Nat.mod_lt (remainder * 10 ^ places) positive) (by omega : scale + places ≤ maxScale)
            (by omega) (by omega)
          rw [if_neg full, ← extended_eq]
          exact further

/-- The whole part has room after some more places if the fraction has. -/
theorem extended_lt {quotient remainder divisor places : Nat} (few : places ≤ 9)
    (room : (quotient * divisor + remainder) * 10 ^ 9 < limit * divisor) :
    quotient * 10 ^ places + remainder * 10 ^ places / divisor < limit := by
  refine Nat.lt_of_mul_lt_mul_right (a := divisor) (Nat.lt_of_le_of_lt ?_ room)
  calc (quotient * 10 ^ places + remainder * 10 ^ places / divisor) * divisor
      ≤ (quotient * divisor + remainder) * 10 ^ places := by
        rw [← extended_eq]
        exact Nat.le_add_right _ _
    _ ≤ (quotient * divisor + remainder) * 10 ^ 9 :=
        Nat.mul_le_mul_left _ (Nat.pow_le_pow_right (by decide) few)

/-- **One step of a division that is short of whole digits**: nine of them at once, or the last. -/
theorem Division.run?_succ_below {quotient remainder below places : Nat} (divisor steps : Nat)
    (short : 0 < below) (found : places = if remainder = 0 then min 9 below else 9)
    (room : (quotient * divisor + remainder) * 10 ^ 9 < limit * divisor) :
    run? divisor (steps + 1) ⟨quotient, remainder, -(below : Int)⟩ =
      run? divisor steps
        ⟨quotient * 10 ^ places + remainder * 10 ^ places / divisor,
          remainder * 10 ^ places % divisor, -(below : Int) + places⟩ := by
  have few : places ≤ 9 := by
    rw [found]
    split
    · exact Nat.min_le_left _ _
    · exact le_rfl
  have whole := extended_lt few room
  have digits : quotient * 10 ^ places < limit := Nat.lt_of_le_of_lt (Nat.le_add_right _ _) whole
  have negative : decide ((0 : Int) ≤ -(below : Int)) = false := decide_eq_false (by omega)
  conv_lhs => rw [run?]
  by_cases exact_end : remainder = 0
  · have none_missing : (-(-(below : Int))).toNat = below := by omega
    rw [if_pos exact_end] at found
    simp only [exact_end, beq_self_eq_true, Bool.not_true, Bool.false_and, Bool.false_eq_true,
      negative, Bool.and_false, if_false, if_true, none_missing, ← found, Nat.pow_eq, Nat.zero_mul,
      Nat.zero_div, Nat.add_zero, Nat.not_le.mpr digits]
  · have unfinished : (remainder == 0) = false := beq_false_of_ne exact_end
    rw [if_neg exact_end] at found
    subst found
    have nine : roomFor quotient (min 9 ((maxScale : Int) - -(below : Int)).toNat) = 9 := by
      have many : 9 ≤ ((maxScale : Int) - -(below : Int)).toNat := by
        have bound : 9 ≤ maxScale := by decide
        omega
      rw [Nat.min_eq_left many]
      exact if_pos digits
    simp only [unfinished, Bool.false_and, Bool.false_eq_true, if_false, Bool.not_false,
      Bool.true_and, nine, negative, Bool.and_false, lt_irrefl, decide_false, Nat.pow_eq,
      Nat.not_le.mpr digits, Nat.not_le.mpr whole]

/-- Some more places make the fraction as many times larger. -/
theorem extended_div (quotient remainder divisor places : Nat) :
    (((quotient * 10 ^ places + remainder * 10 ^ places / divisor) * divisor
        + remainder * 10 ^ places % divisor : ℕ) : ℚ) / divisor
      = ((quotient * divisor + remainder : ℕ) : ℚ) / divisor * 10 ^ places := by
  rw [extended_eq, Nat.cast_mul, Nat.cast_pow, Nat.cast_ofNat, div_mul_eq_mul_div]

/-- **A division that starts short of whole digits** ends as well, if they have room. A step may
leave digits missing, or go on behind the point, where the division is as before. -/
theorem Division.run?_below_spec {divisor steps : Nat} :
    ∀ {quotient remainder below : Nat}, remainder < divisor →
      (quotient * divisor + remainder) * 10 ^ below * 10 ^ 9 < limit * divisor →
      maxScale + below < steps →
      ∃ coefficient places : Nat,
        run? divisor steps ⟨quotient, remainder, -(below : Int)⟩ = some (coefficient, (places : Int))
        ∧ IsQuotient (((quotient * divisor + remainder : ℕ) : ℚ) / divisor * 10 ^ below) coefficient
          places := by
  induction steps with
  | zero => exact fun _ _ enough => absurd enough (Nat.not_lt_zero _)
  | succ steps hypothesis =>
    intro quotient remainder below proper room enough
    have positive : 0 < divisor := Nat.lt_of_le_of_lt (Nat.zero_le _) proper
    have room_here : (quotient * divisor + remainder) * 10 ^ 9 < limit * divisor := by
      refine Nat.lt_of_le_of_lt (Nat.mul_le_mul_right _ ?_) room
      exact Nat.le_mul_of_pos_right _ (Nat.pow_pos (by decide))
    rcases Nat.eq_zero_or_pos below with rfl | short
    · have small : quotient * 10 ^ 9 < limit := by
        refine Nat.lt_of_mul_lt_mul_right (a := divisor) (Nat.lt_of_le_of_lt ?_ room_here)
        calc quotient * 10 ^ 9 * divisor = quotient * divisor * 10 ^ 9 := by ring
          _ ≤ (quotient * divisor + remainder) * 10 ^ 9 :=
              Nat.mul_le_mul_right _ (Nat.le_add_right _ _)
      have large : 1 < limit := by decide
      have further := run?_spec (by omega : quotient < limit) proper (Nat.zero_le _)
        (fun _ => Or.inr (by omega)) (by omega : maxScale - 0 < steps + 1)
      simpa using further
    · obtain ⟨places, found⟩ : ∃ places, places = if remainder = 0 then min 9 below else 9 :=
        ⟨_, rfl⟩
      rw [run?_succ_below divisor steps short found room_here]
      have next_proper := Nat.mod_lt (remainder * 10 ^ places) positive
      have progress : 0 < places ∧ places ≤ 9 := by
        rw [found]
        split <;> omega
      rcases Nat.lt_or_ge below places with more | fewer
      · obtain ⟨behind, rfl⟩ := Nat.exists_eq_add_of_lt more
        have scale_eq : -(below : Int) + ((below + behind + 1 : ℕ) : Int)
            = ((behind + 1 : ℕ) : Int) := by
          push_cast
          ring
        have same := extended_div quotient remainder divisor (below + behind + 1)
        have power : (10 : ℚ) ^ (below + behind + 1) = 10 ^ below * 10 ^ (behind + 1) := by
          rw [Nat.add_assoc, pow_add]
        rw [power, ← mul_assoc, ← div_eq_iff (pow_ne_zero _ (by norm_num))] at same
        have nine_le : 9 ≤ maxScale := by decide
        rw [scale_eq, ← same]
        exact run?_spec (extended_lt progress.2 room_here) next_proper (by omega)
          (fun none => absurd none (Nat.succ_ne_zero _)) (by omega)
      · obtain ⟨left, rfl⟩ := Nat.exists_eq_add_of_le fewer
        have scale_eq : -((places + left : ℕ) : Int) + places = -(left : Int) := by
          push_cast
          ring
        rw [pow_add, ← Nat.mul_assoc, ← extended_eq] at room
        rw [scale_eq, pow_add, ← mul_assoc, ← extended_div]
        exact hypothesis next_proper room (by omega)

/-- A fraction that is a whole number has no remainder. -/
theorem rest_eq_zero {whole rest divisor total : Nat} (proper : rest < divisor)
    (total_eq : whole * divisor + rest = total * divisor) : rest = 0 ∧ whole = total := by
  have divides : divisor ∣ rest :=
    (Nat.dvd_add_right (Nat.dvd_mul_left _ _)).mp (total_eq ▸ Nat.dvd_mul_left _ _)
  obtain rfl : rest = 0 := Nat.eq_zero_of_dvd_of_lt divides proper
  exact ⟨rfl, Nat.eq_of_mul_eq_mul_right proper total_eq⟩

/-- The whole part is at most the number that some more places make of the fraction. -/
theorem digits_le {quotient remainder divisor more whole : Nat} (positive : 0 < divisor)
    (exact_eq : (quotient * divisor + remainder) * 10 ^ more = whole * divisor) :
    quotient * 10 ^ more ≤ whole := by
  refine Nat.le_of_mul_le_mul_right (c := divisor) ?_ positive
  rw [← exact_eq, Nat.mul_right_comm]
  exact Nat.mul_le_mul_right _ (Nat.le_add_right _ _)

/-- A whole number with more zeros than there is room for loses one of them, and no digit. -/
theorem settle?_of_zeros {whole spare divisor scale coefficient places : Nat}
    (positive : 0 < divisor) (behind : 0 < scale) (room : whole < limit)
    (full : limit ≤ whole * 10 ^ spare)
    (found : settle? (whole * 10 ^ spare * divisor) divisor scale
      = some (coefficient, (places : Int))) :
    coefficient * 10 = whole * 10 ^ spare ∧ places + 1 = scale := by
  obtain ⟨zeros, rfl⟩ : ∃ zeros, spare = zeros + 1 := by
    refine Nat.exists_eq_succ_of_ne_zero ?_
    rintro rfl
    rw [pow_zero, Nat.mul_one] at full
    exact absurd room (Nat.not_lt.mpr full)
  have tenth : whole * 10 ^ (zeros + 1) * divisor = whole * 10 ^ zeros * (10 * divisor) := by ring
  rw [settle?, quotientHalfEven_exact _ positive, if_neg (Nat.not_lt.mpr full), if_neg (by omega),
    tenth, quotientHalfEven_exact _ (Nat.mul_pos (by decide) positive)] at found
  obtain ⟨rfl, same⟩ := Prod.mk.inj (Option.some.inj found)
  exact ⟨by rw [pow_succ, Nat.mul_assoc], by omega⟩

/-- **A division finds the fraction itself where it has room**: where some more places make it a
whole number, no step before rounds it. What holds of the fraction after a step holds of the one
before; the last step may find some zeros too. -/
theorem Division.run?_exact {divisor steps : Nat} :
    ∀ {quotient remainder scale more whole coefficient places : Nat}, remainder < divisor →
      quotient < limit → (quotient * divisor + remainder) * 10 ^ more = whole * divisor →
      whole < limit → scale + more ≤ maxScale →
      run? divisor steps ⟨quotient, remainder, scale⟩ = some (coefficient, (places : Int)) →
      coefficient * divisor * 10 ^ scale = (quotient * divisor + remainder) * 10 ^ places := by
  induction steps with
  | zero =>
    intro quotient remainder scale more whole coefficient places _ _ _ _ _ found
    cases found
  | succ steps hypothesis =>
    intro quotient remainder scale more whole coefficient places proper small exact_eq room short found
    have positive : 0 < divisor := Nat.lt_of_le_of_lt (Nat.zero_le _) proper
    by_cases exact_end : remainder = 0
    · subst exact_end
      obtain ⟨rfl, same⟩ := Prod.mk.inj (Option.some.inj ((run?_of_exact _ _ _ _).symm.trans found))
      obtain rfl : scale = places := by exact_mod_cast same
      rw [Nat.add_zero]
    · obtain ⟨bound, fits, stuck⟩ := roomFor_spec small (min 9 (maxScale - scale))
      rw [run?_succ divisor steps exact_end small rfl] at found
      generalize roomFor quotient (min 9 (maxScale - scale)) = step at *
      have needed : min 9 more ≤ step := by
        by_contra less
        have large := stuck (by omega)
        have powers : quotient * 10 ^ (step + 1) ≤ quotient * 10 ^ more :=
          Nat.mul_le_mul_left _ (Nat.pow_le_pow_right (by decide) (by omega))
        have digits := digits_le positive exact_eq
        omega
      have unfinished : more ≠ 0 := by
        rintro rfl
        rw [pow_zero, Nat.mul_one] at exact_eq
        exact exact_end (rest_eq_zero proper exact_eq).1
      rw [if_neg (by omega)] at found
      have next_proper := Nat.mod_lt (remainder * 10 ^ step) positive
      have next_eq := extended_eq quotient remainder divisor step
      generalize quotient * 10 ^ step + remainder * 10 ^ step / divisor = next at *
      generalize remainder * 10 ^ step % divisor = rest at *
      have carry (same : coefficient * divisor * 10 ^ (scale + step)
          = (next * divisor + rest) * 10 ^ places) :
          coefficient * divisor * 10 ^ scale = (quotient * divisor + remainder) * 10 ^ places := by
        refine Nat.eq_of_mul_eq_mul_right (Nat.pow_pos (by decide : 0 < 10) (n := step)) ?_
        rw [Nat.mul_assoc, ← pow_add, same, next_eq, Nat.mul_right_comm]
      rcases Nat.lt_or_ge step more with fewer | enough
      · obtain ⟨left, rfl⟩ := Nat.exists_eq_add_of_le fewer.le
        have whole_eq : (next * divisor + rest) * 10 ^ left = whole * divisor := by
          rw [next_eq, Nat.mul_assoc, ← pow_add, exact_eq]
        have next_small : next < limit :=
          Nat.lt_of_le_of_lt ((Nat.le_mul_of_pos_right _ (Nat.pow_pos (by decide))).trans
            (digits_le positive whole_eq)) room
        rw [if_neg (Nat.not_le.mpr next_small)] at found
        exact carry (hypothesis next_proper next_small whole_eq room (by omega) found)
      · obtain ⟨spare, rfl⟩ := Nat.exists_eq_add_of_le enough
        have all_eq : (quotient * divisor + remainder) * 10 ^ (more + spare)
            = whole * 10 ^ spare * divisor := by
          rw [pow_add, ← Nat.mul_assoc, exact_eq, Nat.mul_right_comm]
        obtain ⟨rfl, rfl⟩ := rest_eq_zero next_proper (next_eq.trans all_eq)
        by_cases full : limit ≤ whole * 10 ^ spare
        · rw [if_pos full, all_eq] at found
          obtain ⟨digits, behind⟩ := settle?_of_zeros positive (by omega) room full found
          refine carry ?_
          calc coefficient * divisor * 10 ^ (scale + (more + spare))
              = coefficient * 10 * divisor * 10 ^ places := by rw [← behind, pow_succ]; ring
            _ = (whole * 10 ^ spare * divisor + 0) * 10 ^ places := by rw [digits, Nat.add_zero]
        · rw [if_neg full] at found
          have ended : (whole * 10 ^ spare * divisor + 0) * 10 ^ 0 = whole * 10 ^ spare * divisor := by
            rw [pow_zero, Nat.mul_one, Nat.add_zero]
          exact carry (hypothesis positive (Nat.not_le.mp full) ended (Nat.not_le.mp full) (by omega)
            found)

/-! ### Zeros at the end -/

/-- A coefficient with places and the same one without some zeros at its end. -/
def IsShortened (before after : Nat × Nat) : Prop :=
  ∃ dropped, before.1 = after.1 * 10 ^ dropped ∧ before.2 = after.2 + dropped

namespace IsShortened

variable {first second third : Nat × Nat}

theorem refl (parts : Nat × Nat) : IsShortened parts parts := ⟨0, by simp, rfl⟩

theorem trans (one : IsShortened first second) (other : IsShortened second third) :
    IsShortened first third := by
  obtain ⟨dropped, digits, places⟩ := one
  obtain ⟨more, fewer_digits, fewer_places⟩ := other
  refine ⟨more + dropped, ?_, by omega⟩
  rw [digits, fewer_digits, pow_add, mul_assoc]

end IsShortened

theorem dropZeros_spec (count coefficient scale : Nat) :
    IsShortened (coefficient, scale) (dropZeros count coefficient scale) := by
  unfold dropZeros
  split
  · rename_i zeros
    exact ⟨count, (Nat.div_mul_cancel (Nat.dvd_of_mod_eq_zero zeros.2)).symm,
      (Nat.sub_add_cancel zeros.1).symm⟩
  · exact .refl _

theorem dropEights_spec (steps coefficient scale : Nat) :
    IsShortened (coefficient, scale) (dropEights steps coefficient scale) := by
  induction steps generalizing coefficient scale with
  | zero => exact .refl _
  | succ steps hypothesis =>
    unfold dropEights
    simp only
    split
    · exact (dropZeros_spec 8 coefficient scale).trans (hypothesis _ _)
    · exact .refl _

/-- **Zeros that are dropped do not change the value.** -/
theorem shorten_spec (coefficient scale : Nat) :
    IsShortened (coefficient, scale) (shorten coefficient scale) :=
  (dropEights_spec scale coefficient scale).trans
    ((dropZeros_spec 4 _ _).trans ((dropZeros_spec 2 _ _).trans (dropZeros_spec 1 _ _)))

/-! ### Quotients -/

/-- The division that a quotient starts with. -/
def Division.start (first second : Decimal) : Division :=
  ⟨first.coefficient / second.coefficient, first.coefficient % second.coefficient,
    (first.scale : Int) - second.scale⟩

section Quotients

variable {first second : Decimal} (nonzero : first.isZero = false)
  (divisible : second.isZero = false)

include nonzero divisible

/-- What a division ends with is the quotient, without some zeros at its end. -/
theorem div?_of_run? {coefficient places : Nat}
    (found : (Division.start first second).run? second.coefficient
      ((maxScale - (Division.start first second).scale).toNat + 1)
        = some (coefficient, (places : Int)))
    (small : coefficient < limit) (short : places ≤ maxScale) :
    ∃ value, first.div? second = some value
      ∧ value.negative = ((first.negative != second.negative) && value.coefficient != 0)
      ∧ IsShortened (coefficient, places) (value.coefficient, value.scale) := by
  let kept := if first.coefficient % second.coefficient = 0 then (coefficient, places)
    else shorten coefficient places
  have shortened : IsShortened (coefficient, places) kept := by
    unfold kept
    split
    · exact .refl _
    · exact shorten_spec _ _
  obtain ⟨dropped, digits, scales⟩ := shortened
  simp only at digits scales
  have kept_small : kept.1 < limit := by
    refine Nat.lt_of_le_of_lt ?_ small
    rw [digits]
    exact Nat.le_mul_of_pos_right _ (Nat.pow_pos (by decide))
  have kept_short : kept.2 ≤ maxScale := by omega
  refine ⟨ofParts (first.negative != second.negative) kept.1 kept.2 kept_small kept_short, ?_, rfl,
    dropped, digits, scales⟩
  unfold Division.start at found
  unfold div?
  simp only [divisible, nonzero, Bool.false_eq_true, if_false, found]
  change ofParts? _ kept.1 kept.2 = _
  exact dif_pos ⟨kept_small, kept_short⟩

omit nonzero in
/-- The division by a whole number ends. -/
theorem Division.run?_start_spec (whole : second.scale = 0) : ∃ coefficient places : Nat,
    (Division.start first second).run? second.coefficient
        ((maxScale - (Division.start first second).scale).toNat + 1)
      = some (coefficient, (places : Int))
    ∧ IsQuotient ((first.coefficient : ℚ) / second.coefficient / 10 ^ first.scale) coefficient
      places := by
  have positive : 0 < second.coefficient := Nat.pos_of_ne_zero (beq_eq_false_iff_ne.mp divisible)
  have proper := Nat.mod_lt first.coefficient positive
  have room : first.scale = 0 → first.coefficient % second.coefficient = 0
      ∨ first.coefficient / second.coefficient + 1 < limit := by
    intro _
    have small := first.coefficient_lt
    rcases Nat.lt_or_eq_of_le (Nat.succ_le_of_lt positive) with several | one
    · have half : first.coefficient / second.coefficient ≤ first.coefficient / 2 :=
        Nat.div_le_div_left several (by decide)
      have large : 4 < limit := by decide
      omega
    · rw [← one]
      exact Or.inl (Nat.mod_one _)
  have quotient_small : first.coefficient / second.coefficient < limit :=
    Nat.lt_of_le_of_lt (Nat.div_le_self _ _) first.coefficient_lt
  obtain ⟨coefficient, places, found, isQuotient⟩ :=
    Division.run?_spec quotient_small proper first.scale_le room
      (Nat.lt_succ_self (maxScale - first.scale))
  rw [Nat.div_add_mod'] at isQuotient
  have start : (first.scale : Int) - (second.scale : Int) = first.scale := by
    rw [whole]
    exact sub_zero _
  have steps : ((maxScale : Int) - (first.scale : Int)).toNat = maxScale - first.scale := by omega
  refine ⟨coefficient, places, ?_, isQuotient⟩
  rw [Division.start, start, steps]
  exact found

/-- **The quotient by a whole number** is as near to the fraction as there is room for, without some
zeros at its end. -/
theorem div?_spec (whole : second.scale = 0) :
    ∃ value dropped, first.div? second = some value
      ∧ value.negative = ((first.negative != second.negative) && value.coefficient != 0)
      ∧ IsQuotient ((first.coefficient : ℚ) / second.coefficient / 10 ^ first.scale)
        (value.coefficient * 10 ^ dropped) (value.scale + dropped) := by
  obtain ⟨coefficient, places, found, isQuotient⟩ := Division.run?_start_spec divisible whole
  obtain ⟨value, divided, sign, dropped, digits, scales⟩ :=
    div?_of_run? nonzero divisible found isQuotient.small isQuotient.short
  simp only at digits scales
  rw [digits, scales] at isQuotient
  exact ⟨value, dropped, divided, sign, isQuotient⟩

/-- **The quotient by a whole number is exact** where some more places make it whole. -/
theorem div?_exact (whole : second.scale = 0) {more digits : Nat}
    (exact_eq : first.coefficient * 10 ^ more = digits * second.coefficient)
    (room : digits < limit) (short : first.scale + more ≤ maxScale) :
    ∃ value, first.div? second = some value
      ∧ value.negative = ((first.negative != second.negative) && value.coefficient != 0)
      ∧ value.coefficient * second.coefficient * 10 ^ first.scale
        = first.coefficient * 10 ^ value.scale := by
  have positive : 0 < second.coefficient := Nat.pos_of_ne_zero (beq_eq_false_iff_ne.mp divisible)
  obtain ⟨coefficient, places, found, isQuotient⟩ := Division.run?_start_spec divisible whole
  obtain ⟨value, divided, sign, dropped, coefficient_eq, places_eq⟩ :=
    div?_of_run? nonzero divisible found isQuotient.small isQuotient.short
  have start : (first.scale : Int) - (second.scale : Int) = first.scale := by
    rw [whole]
    exact sub_zero _
  rw [Division.start, start] at found
  have same := Division.run?_exact (Nat.mod_lt _ positive)
    (Nat.lt_of_le_of_lt (Nat.div_le_self _ _) first.coefficient_lt)
    (by rw [Nat.div_add_mod']; exact exact_eq) room short found
  simp only at coefficient_eq places_eq
  rw [Nat.div_add_mod', coefficient_eq, places_eq] at same
  refine ⟨value, divided, sign, ?_⟩
  refine Nat.eq_of_mul_eq_mul_right (Nat.pow_pos (by decide : 0 < 10) (n := dropped)) ?_
  calc value.coefficient * second.coefficient * 10 ^ first.scale * 10 ^ dropped
      = value.coefficient * 10 ^ dropped * second.coefficient * 10 ^ first.scale := by ring
    _ = first.coefficient * 10 ^ (value.scale + dropped) := same
    _ = first.coefficient * 10 ^ value.scale * 10 ^ dropped := by ring

end Quotients

end Paydesk.Decimal
