/-
**Texts in small letters.**

Folding leaves no ASCII capital behind, and it writes no character of the few that searches trip
over: a character of a folded text either stood in the text before or is a letter.

* `CaseRun.isSound`, `isSound_of_mem`: what all runs of capitals have in common, checked once;
* `foldChar_cases`: the small form of one character, by the cases of the definition;
* `isUpper_of_mem_fold`, `mem_fold`: **the characters of a folded text**.
-/

import Paydesk.Text.Fold

namespace Paydesk.Text

/-- No null character and neither of the noncharacters at the end of the first plane. -/
def IsLetterCode (code : Nat) : Prop := code ≠ 0 ∧ code ≠ 0xFFFE ∧ code ≠ 0xFFFF

/-! ### Runs of capitals -/

/-- The small letters of a run lie past the ASCII capitals, in one stretch of letter codes. -/
def CaseRun.isSound (run : CaseRun) : Bool :=
  let least := run.first + run.shift
  let most := run.last + run.shift
  0x5A < least
    && (most < 0xD800 || 0xE000 ≤ least && most < 0xFFFE || 0x10000 ≤ least && most < 0x110000)

theorem isSound_of_mem {run : CaseRun} (member : run ∈ caseRuns) : run.isSound := by
  have all_sound : caseRuns.all CaseRun.isSound := by decide +kernel
  exact List.all_eq_true.mp all_sound run member

/-- A small letter is no ASCII capital and has a letter's code. -/
theorem smallLetter?_spec {char small : Char} (found : smallLetter? char = some small) :
    0x5A < small.toNat ∧ IsLetterCode small.toNat := by
  unfold smallLetter? at found
  obtain ⟨run, here, rfl⟩ := Option.map_eq_some_iff.mp found
  have sound := isSound_of_mem (List.mem_of_find?_eq_some here)
  have inside : run.holds char.toNat = true :=
    List.find?_some (p := fun run : CaseRun => run.holds char.toNat) here
  simp only [CaseRun.isSound, Bool.and_eq_true, Bool.or_eq_true, decide_eq_true_eq] at sound
  simp only [CaseRun.holds, Bool.and_eq_true, decide_eq_true_eq] at inside
  obtain ⟨⟨from_first, to_last⟩, -⟩ := inside
  obtain ⟨past, stretch⟩ := sound
  have valid : Nat.isValidChar ((char.toNat : Int) + run.shift).toNat := by
    unfold Nat.isValidChar
    omega
  have code : (Char.ofNat ((char.toNat : Int) + run.shift).toNat).toNat
      = ((char.toNat : Int) + run.shift).toNat := by
    rw [Char.ofNat, dif_pos valid]
    rfl
  rw [code]
  unfold IsLetterCode
  omega

/-! ### Folded texts -/

theorem isUpper_eq_false {char : Char} (past : 0x5A < char.toNat) : char.isUpper = false := by
  unfold Char.isUpper
  rw [decide_eq_false_iff_not]
  rintro ⟨-, most⟩
  have bound : char.toNat ≤ 0x5A := UInt32.le_iff_toNat_le.mp most
  omega

/-- An ASCII character in small form is the character or a small letter. -/
theorem toLower_cases (char : Char) :
    char.toLower.isUpper = false ∧ (char.toLower = char ∨ IsLetterCode char.toLower.toNat) := by
  unfold Char.toLower
  split
  · rename_i upper
    have least : 0x41 ≤ char.val.toNat := UInt32.le_iff_toNat_le.mp upper.1
    have most : char.val.toNat ≤ 0x5A := UInt32.le_iff_toNat_le.mp upper.2
    have shifted : (char.val + ('a'.val - 'A'.val)).toNat = char.val.toNat + 32 := by
      rw [UInt32.toNat_add]
      exact Nat.mod_eq_of_lt (by omega : char.val.toNat + 32 < 2 ^ 32)
    refine ⟨isUpper_eq_false ?_, Or.inr ?_⟩
    · change 0x5A < (char.val + ('a'.val - 'A'.val)).toNat
      omega
    · change IsLetterCode (char.val + ('a'.val - 'A'.val)).toNat
      unfold IsLetterCode
      omega
  · rename_i small
    exact ⟨decide_eq_false small, Or.inl rfl⟩

theorem foldChar_cases {before after : List Char} {char small : Char}
    (member : small ∈ foldChar before char after) :
    small.isUpper = false ∧ (small = char ∨ IsLetterCode small.toNat) := by
  unfold foldChar at member
  split at member
  · rw [List.mem_singleton] at member
    rw [member]
    exact toLower_cases char
  · rename_i wide
    split at member
    · rw [List.mem_singleton] at member
      rw [member]
      split <;> exact ⟨by decide, Or.inr (by unfold IsLetterCode; decide)⟩
    · split at member
      · rw [List.mem_cons, List.mem_singleton] at member
        rcases member with rfl | rfl <;> exact ⟨by decide, Or.inr (by unfold IsLetterCode; decide)⟩
      · rw [List.mem_singleton] at member
        rw [member]
        cases found : smallLetter? char with
        | none => exact ⟨isUpper_eq_false (by simp only [Option.getD_none]; omega), Or.inl rfl⟩
        | some small =>
          obtain ⟨past, letter⟩ := smallLetter?_spec found
          exact ⟨isUpper_eq_false past, Or.inr letter⟩

theorem foldChars_cases {before chars : List Char} {small : Char}
    (member : small ∈ foldChars before chars) :
    small.isUpper = false ∧ (small ∈ chars ∨ IsLetterCode small.toNat) := by
  induction chars generalizing before with
  | nil => nomatch member
  | cons char after hypothesis =>
    rw [foldChars, List.mem_append] at member
    rcases member with here | later
    · obtain ⟨small_form, rfl | letter⟩ := foldChar_cases here
      · exact ⟨small_form, Or.inl List.mem_cons_self⟩
      · exact ⟨small_form, Or.inr letter⟩
    · obtain ⟨small_form, inside | letter⟩ := hypothesis later
      · exact ⟨small_form, Or.inl (List.mem_cons_of_mem _ inside)⟩
      · exact ⟨small_form, Or.inr letter⟩

theorem isUpper_of_mem_fold {text : String} {small : Char} (member : small ∈ (fold text).toList) :
    small.isUpper = false := by
  rw [fold, String.toList_ofList] at member
  exact (foldChars_cases member).1

theorem mem_fold {text : String} {small : Char} (member : small ∈ (fold text).toList) :
    small ∈ text.toList ∨ IsLetterCode small.toNat := by
  rw [fold, String.toList_ofList] at member
  exact (foldChars_cases member).2

end Paydesk.Text
