/-
**Numbers among the parameters.**

A whole number of 64 bits is always stored as it is. A double stands for the digits that it is
written with, and these are read as a decimal: the double is refused if they are out of bounds,
where no decimal has their value; all others are stored, exactly where some decimal has their value,
and else rounded to 28 places.

* `Json.StandsFor`: the number that a document's number stands for;
* `Param.number?`: the number that is stored;
* `Params.setJson_number`: **which numbers are refused, and what is stored of the others**;
* `pastLastPlace`: **a number with 29 places** that is stored as another one.
-/

import Paydesk.Proofs.Decimal.Cents
import Paydesk.Proofs.Json.Decimal
import Paydesk.Proofs.Order.Document

namespace Paydesk

open Decimal (limit maxScale OutOfBounds ReadsAs)

/-- The number that a number in a document stands for: a whole number of 64 bits, with or without a
sign, for itself, and a double for the fewest digits that read back as it. -/
inductive Json.StandsFor : Json → ℚ → Prop where
  | int {number : Int} (fits : Json.FitsDocument number) : StandsFor (.int number) number
  | float {number : Binary64} (small : number.mantissa < 2 ^ 53) :
      StandsFor (.float number) number.written

/-- The number that is stored in a parameter. -/
def Param.number? : Param → Option ℚ
  | .whole value => some value.toInt
  | .number value => some value.toRat
  | _ => none

/-- A whole number of 64 bits is a decimal. -/
theorem Json.FitsDocument.ofInt?_eq {value : Int} (fits : Json.FitsDocument value) :
    ∃ decimal, Decimal.ofInt? value = some decimal ∧ decimal.toRat = value := by
  obtain ⟨least, most⟩ := fits
  have small : value.natAbs < limit := by
    have large : 2 ^ 64 ≤ limit := by decide
    rw [Nat.pow_eq] at least most
    omega
  refine ⟨_, dif_pos ⟨small, Nat.zero_le _⟩, ?_⟩
  rw [Decimal.toRat_ofParts, pow_zero, div_one, Nat.cast_natAbs, Int.cast_abs]
  rcases lt_or_ge value 0 with negative | nonneg
  · rw [decide_eq_true negative, if_pos rfl, abs_of_neg (by exact_mod_cast negative)]
    ring
  · rw [decide_eq_false (not_lt.mpr nonneg), if_neg Bool.false_ne_true,
      abs_of_nonneg (by exact_mod_cast nonneg), one_mul]

/-- What is stored as a number is the value of a decimal. -/
theorem Param.exists_toRat_eq {param : Param} {x : ℚ} (stored : param.number? = some x) :
    ∃ decimal : Decimal, decimal.toRat = x := by
  cases param with
  | whole value =>
    cases stored
    obtain ⟨decimal, -, same⟩ := (Json.fitsDocument_toInt value).ofInt?_eq
    exact ⟨decimal, same⟩
  | number value =>
    cases stored
    exact ⟨value, rfl⟩
  | flag => cases stored
  | text => cases stored

namespace Params

variable {params : Params} {key : String} {json : Json} {param : Param} {x : ℚ}

theorem set_of_room (room : params.contains key ∨ params.size < capacity) (param : Param) :
    params.set key param = .ok (params.insert key param) := by
  unfold set
  rcases room with known | space
  · rw [known]
    rfl
  · rw [decide_eq_false (Nat.not_le.mpr space), Bool.and_false]
    rfl

/-- A parameter that holds the nearest number of 28 places is stored as such, and it holds the
number itself where it can. -/
theorem exists_stored (room : params.contains key ∨ params.size < capacity)
    (found : params.setJson key json = params.set key param)
    (stored : param.number? = some (nearest maxScale x)) :
    ∃ param, params.setJson key json = .ok (params.insert key param)
      ∧ param.number? = some (nearest maxScale x)
      ∧ (param.number? = some x ↔ ∃ decimal : Decimal, decimal.toRat = x) := by
  refine ⟨param, found.trans (set_of_room room param), stored, Param.exists_toRat_eq, ?_⟩
  rintro ⟨decimal, rfl⟩
  rw [stored, decimal.nearest_toRat]

/-- A whole number of 64 bits is stored as it is. -/
theorem setJson_int (params : Params) (key : String) {value : Int} (fits : Json.FitsDocument value) :
    ∃ param, params.setJson key (.int value) = params.set key param
      ∧ param.number? = some (value : ℚ) := by
  unfold setJson
  cases small : Text.toInt64? value with
  | some short =>
    have same : (short.toInt : ℚ) = value := by rw [Text.toInt_of_toInt64? small]
    simp only [small]
    exact ⟨.whole short, rfl, congrArg some same⟩
  | none =>
    obtain ⟨decimal, found, same⟩ := fits.ofInt?_eq
    simp only [small, found]
    exact ⟨.number decimal, rfl, congrArg some same⟩

/-- **Numbers among the parameters.** Where a parameter is there already or there is room, a number
is refused exactly if it is out of bounds, and then no decimal has its value. Any other is stored,
with the nearest number of 28 places; so what is stored is the number itself exactly if some decimal
has its value. -/
theorem setJson_number (params : Params) (key : String) (stands : json.StandsFor x)
    (room : params.contains key ∨ params.size < capacity) :
    (OutOfBounds x → params.setJson key json = .error (.outOfRange key)
        ∧ ∀ decimal : Decimal, decimal.toRat ≠ x)
      ∧ (¬OutOfBounds x → ∃ param, params.setJson key json = .ok (params.insert key param)
        ∧ param.number? = some (nearest maxScale x)
        ∧ (param.number? = some x ↔ ∃ decimal : Decimal, decimal.toRat = x)) := by
  cases stands with
  | @int number fits =>
    obtain ⟨decimal, -, same⟩ := fits.ofInt?_eq
    obtain ⟨param, found, stored⟩ := setJson_int params key fits
    refine ⟨fun out => absurd same (Decimal.toRat_ne_of_outOfBounds out decimal), fun _ => ?_⟩
    refine exists_stored room found ?_
    rw [stored, ← same, decimal.nearest_toRat]
  | @float number small =>
    have reads := number.readsAs_writeShort small
    cases result : Decimal.read number.writeShort with
    | ok decimal =>
      rw [result] at reads
      obtain ⟨within, value_eq⟩ := reads
      have found : params.setJson key (.float number) = params.set key (.number decimal) := by
        unfold setJson
        simp only [result]
      have stored : (Param.number decimal).number? = some (nearest maxScale number.written) :=
        congrArg some value_eq
      exact ⟨fun out => absurd out within, fun _ => exists_stored room found stored⟩
    | error fault =>
      rw [result] at reads
      have refused : params.setJson key (.float number) = .error (.outOfRange key) := by
        unfold setJson
        simp only [result]
      exact ⟨fun out => ⟨refused, Decimal.toRat_ne_of_outOfBounds out⟩,
        fun within => absurd reads within⟩

/-- The double of `1.5e-28`. -/
def pastLastPlace : Binary64 := ⟨false, 6690223559559187, -145⟩

theorem written_pastLastPlace : pastLastPlace.written = 15 / 10 ^ 29 := by
  have digits : pastLastPlace.shortest .toEven = (15, -29) := by decide
  unfold Binary64.written
  rw [digits]
  norm_num [pastLastPlace, Binary64.isZero]

/-- **A number with 29 places** is no decimal's value; it is not refused, and another number is
stored. -/
theorem setJson_number_pastLastPlace : (Json.float pastLastPlace).StandsFor (15 / 10 ^ 29)
    ∧ (∀ decimal : Decimal, decimal.toRat ≠ 15 / 10 ^ 29)
    ∧ ∃ param, setJson ∅ "x" (.float pastLastPlace) = .ok (Dict.insert ∅ "x" param)
      ∧ param.number? = some (2 / 10 ^ 28) := by
  have stands : (Json.float pastLastPlace).StandsFor (15 / 10 ^ 29) :=
    written_pastLastPlace ▸ .float (by decide)
  have within : ¬OutOfBounds (15 / 10 ^ 29) := by
    norm_num [OutOfBounds, limit, maxScale, abs_of_pos]
  have rounded : nearest maxScale (15 / 10 ^ 29) = 2 / 10 ^ 28 := by
    have whole : nearestWhole (3 / 2) = 2 := by
      rw [nearestWhole_of_nonneg (by norm_num)]
      norm_num
    norm_num [nearest, maxScale, whole]
  have other (decimal : Decimal) : decimal.toRat ≠ 15 / 10 ^ 29 := by
    intro same
    have kept := decimal.nearest_toRat
    rw [same, rounded] at kept
    norm_num at kept
  obtain ⟨param, found, stored, -⟩ :=
    (setJson_number ∅ "x" stands (Or.inr (by decide))).2 within
  exact ⟨stands, other, param, found, rounded ▸ stored⟩

end Params

end Paydesk
