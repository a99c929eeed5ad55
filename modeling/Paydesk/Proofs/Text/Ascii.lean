/-
**Texts whose letters may change their case.**

A code that is looked up by its capitals and one that is compared letter by letter are the same code
in the same cases.

* `Text.sameLetters_iff`: **texts differ at most in the case of their ASCII letters** exactly where
  they are the same in capitals;
* `isLetterCode_upperCase`, `upperCase_trimBlank`: forms and white space do not depend on the case.
-/

import Mathlib
import Paydesk.Request.Format

namespace Paydesk.Text

theorem upperCase_lowerCase (text : String) : upperCase (lowerCase text) = upperCase text := by
  unfold upperCase lowerCase
  rw [String.toList_ofList, List.map_map]
  refine congrArg String.ofList (List.map_congr_left fun char _ => ?_)
  exact Char.toUpper_toLower_eq_toUpper char

theorem lowerCase_upperCase (text : String) : lowerCase (upperCase text) = lowerCase text := by
  unfold upperCase lowerCase
  rw [String.toList_ofList, List.map_map]
  refine congrArg String.ofList (List.map_congr_left fun char _ => ?_)
  exact Char.toLower_toUpper_eq_toLower char

/-- **Texts differ at most in the case of their letters** where they are the same in capitals. -/
theorem sameLetters_iff {first second : String} :
    sameLetters first second ↔ upperCase first = upperCase second := by
  unfold sameLetters
  rw [beq_iff_eq]
  constructor
  · intro same
    rw [← upperCase_lowerCase first, same, upperCase_lowerCase]
  · intro same
    rw [← lowerCase_upperCase first, same, lowerCase_upperCase]

/-! ### Codes in capitals -/

/-- The capital of a character is the character, or it is that of a small letter. -/
theorem toUpper_cases (char : Char) : char.toUpper = char
    ∨ (97 ≤ char.toNat ∧ char.toNat ≤ 122 ∧ char.toUpper.toNat + 32 = char.toNat) := by
  unfold Char.toUpper
  split
  · rename_i small
    have least : 97 ≤ char.toNat := UInt32.le_iff_toNat_le.mp small.1
    have most : char.toNat ≤ 122 := UInt32.le_iff_toNat_le.mp small.2
    have shifted : (char.val + ('A'.val - 'a'.val)).toNat + 32 = char.toNat := by
      rw [UInt32.toNat_add]
      change (char.toNat + 4294967264) % 2 ^ 32 + 32 = char.toNat
      omega
    exact Or.inr ⟨least, most, shifted⟩
  · exact Or.inl rfl

theorem isBlank_eq_false {char : Char} (least : 65 ≤ char.toNat) (most : char.toNat ≤ 122) :
    isBlank char = false := by
  simp only [isBlank, Bool.or_eq_false_iff, Bool.and_eq_false_iff, decide_eq_false_iff_not,
    beq_eq_false_iff_ne]
  omega

theorem isBlank_toUpper (char : Char) : isBlank char.toUpper = isBlank char := by
  rcases toUpper_cases char with same | ⟨least, most, shifted⟩
  · rw [same]
  · rw [isBlank_eq_false (by omega) most, isBlank_eq_false (by omega) (by omega)]

theorem isLetter_iff {char : Char} : isLetter char ↔
    (97 ≤ char.toNat ∧ char.toNat ≤ 122) ∨ (65 ≤ char.toNat ∧ char.toNat ≤ 90) := by
  unfold isLetter
  rw [Bool.or_eq_true, Bool.and_eq_true, Bool.and_eq_true, decide_eq_true_eq, decide_eq_true_eq,
    decide_eq_true_eq, decide_eq_true_eq]
  rfl

theorem isLetter_toUpper (char : Char) : isLetter char.toUpper = isLetter char := by
  rcases toUpper_cases char with same | ⟨least, most, shifted⟩
  · rw [same]
  · rw [Bool.eq_iff_iff, isLetter_iff, isLetter_iff]
    omega

/-- White space at the ends does not depend on the case of letters. -/
theorem upperCase_trimBlank (text : String) :
    upperCase (trimBlank text) = trimBlank (upperCase text) := by
  have blank : isBlank ∘ Char.toUpper = isBlank := by
    funext char
    exact isBlank_toUpper char
  unfold upperCase trimBlank trimChars
  simp only [String.toList_ofList, List.dropWhile_map, ← List.map_reverse, blank]

theorem isLetterCode_upperCase (length : Nat) (text : String) :
    isLetterCode length (upperCase text) = isLetterCode length text := by
  have letter : isLetter ∘ Char.toUpper = isLetter := by
    funext char
    exact isLetter_toUpper char
  unfold isLetterCode upperCase
  rw [String.toList_ofList, List.length_map, List.all_map, letter]

end Paydesk.Text
