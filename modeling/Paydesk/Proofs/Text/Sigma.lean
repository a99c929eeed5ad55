/-
**Parts of texts in small letters.**

A part of a text need not be folded as it is on its own: a capital sigma of the part may end a word
of the whole and none of the part, or the other way round. Nothing else depends on what stands
around the part.

* `foldWithin`, `foldChars_append`: a part of a text, folded where it stands;
* `isOpen`, `IsSteady`: a sigma that what stands around the part decides, and a text without one;
* `endsWord_append_of_closed`, `foldWithin_congr`: **a steady part is folded as on its own**;
* `hasOpenSigma_eq_false`: a part that is not steady is folded otherwise next to some letter;
* `fold_infix_fold`, `exists_missed`: **a pattern stands folded wherever it stands letter for letter
  if and only if it is steady**.
-/

import Paydesk.Text.Fold

namespace Paydesk.Text

variable {before after further later part chars : List Char}

/-! ### A part where it stands -/

/-- The small forms of a part of some characters, those before it listed backwards. -/
def foldWithin (before after : List Char) : List Char → List Char
  | [] => []
  | char :: rest =>
    foldChar before char (rest ++ after) ++ foldWithin (char :: before) after rest

theorem foldChars_append (before part after : List Char) :
    foldChars before (part ++ after)
      = foldWithin before after part ++ foldChars (part.reverse ++ before) after := by
  induction part generalizing before with
  | nil => rfl
  | cons char rest hypothesis =>
    rw [List.cons_append, foldChars, hypothesis, foldWithin, List.append_assoc, List.reverse_cons,
      List.append_assoc, List.singleton_append]

/-- With nothing behind it, a part is the end of the text. -/
theorem foldWithin_nil (before part : List Char) :
    foldWithin before [] part = foldChars before part := by
  have whole := foldChars_append before part []
  rw [List.append_nil, foldChars, List.append_nil] at whole
  exact whole.symm

/-- A part of a text stands folded in the folded text. -/
theorem foldWithin_infix (left part right : List Char) :
    foldWithin left.reverse right part <:+: foldChars [] (left ++ part ++ right) := by
  rw [List.append_assoc, foldChars_append, foldChars_append, List.append_nil, ← List.append_assoc]
  exact List.infix_append _ _ _

/-! ### Where a word ends -/

theorem startsCased_append (near far : List Char) : startsCased (near ++ far) =
    if near.all isCaseIgnorable then startsCased far else startsCased near := by
  induction near with
  | nil => rfl
  | cons first rest hypothesis =>
    unfold startsCased at hypothesis ⊢
    rw [List.cons_append, List.dropWhile_cons, List.dropWhile_cons, List.all_cons]
    cases isCaseIgnorable first with
    | true => exact hypothesis
    | false => rfl

theorem startsCased_of_all (passed : chars.all isCaseIgnorable) : startsCased chars = false := by
  have alone := startsCased_append chars []
  rw [if_pos passed, List.append_nil] at alone
  exact alone

/-- Whether what stands around a part decides if a sigma of it ends a word. In the part no letter
follows the sigma; and the part leaves open whether one comes before it, or one does and the part
leaves open whether one follows. -/
def isOpen (before after : List Char) : Bool :=
  !startsCased after
    && (before.all isCaseIgnorable || after.all isCaseIgnorable && startsCased before)

/-- A closed sigma ends a word in every text around the part, or in none. -/
theorem endsWord_append_of_closed (closed : isOpen before after = false)
    (further later : List Char) :
    endsWord (before ++ further) (after ++ later) = endsWord before after := by
  unfold endsWord
  rw [startsCased_append, startsCased_append]
  unfold isOpen at closed
  cases starts : startsCased after with
  | true =>
    have stops : ¬ after.all isCaseIgnorable := by
      intro passed
      cases starts.symm.trans (startsCased_of_all passed)
    rw [if_neg stops, Bool.not_true, Bool.and_false, Bool.and_false]
  | false =>
    rw [starts, Bool.not_false, Bool.true_and, Bool.or_eq_false_iff, Bool.and_eq_false_iff] at closed
    obtain ⟨stops_before, undecided⟩ := closed
    rw [if_neg (Bool.eq_false_iff.mp stops_before)]
    rcases undecided with stops | uncased
    · rw [if_neg (Bool.eq_false_iff.mp stops)]
    · rw [uncased, Bool.false_and, Bool.false_and]

/-- A sigma that a letter before the part leaves as it is, and one behind it as well, is closed. -/
theorem isOpen_eq_false (same_before : endsWord (before ++ ['a']) after = endsWord before after)
    (same_after : endsWord before (after ++ ['a']) = endsWord before after) :
    isOpen before after = false := by
  have letter : startsCased ['a'] = true := by decide +kernel
  unfold endsWord at same_before same_after
  rw [startsCased_append, letter] at same_before same_after
  unfold isOpen
  cases starts : startsCased after with
  | true => rw [Bool.not_true, Bool.false_and]
  | false =>
    rw [starts, Bool.not_false, Bool.and_true, Bool.and_true] at same_before
    have stops : before.all isCaseIgnorable = false := by
      refine Bool.eq_false_iff.mpr fun passed => ?_
      rw [if_pos passed, startsCased_of_all passed] at same_before
      cases same_before
    rw [stops, Bool.false_or, Bool.not_false, Bool.true_and, Bool.and_eq_false_iff]
    by_cases passed : after.all isCaseIgnorable
    · rw [if_pos passed, starts, Bool.not_true, Bool.and_false, Bool.not_false,
        Bool.and_true] at same_after
      exact Or.inr same_after.symm
    · exact Or.inl (Bool.eq_false_iff.mpr passed)

/-! ### Steady texts -/

/-- Whether a sigma of a part is open, the characters before it listed backwards. -/
def hasOpenSigma (before : List Char) : List Char → Bool
  | [] => false
  | char :: after => (char == 'Σ' && isOpen before after) || hasOpenSigma (char :: before) after

/-- No capital sigma of a text depends on what stands around the text. -/
def IsSteady (text : String) : Prop := hasOpenSigma [] text.toList = false

instance (text : String) : Decidable (IsSteady text) :=
  inferInstanceAs (Decidable (hasOpenSigma [] text.toList = false))

theorem hasOpenSigma_of_not_mem (before : List Char) (absent : 'Σ' ∉ part) :
    hasOpenSigma before part = false := by
  induction part generalizing before with
  | nil => rfl
  | cons char rest hypothesis =>
    obtain ⟨other, none_left⟩ := List.ne_and_not_mem_of_not_mem_cons absent
    rw [hasOpenSigma, hypothesis _ none_left, Bool.or_false, beq_eq_false_iff_ne.mpr other.symm,
      Bool.false_and]

/-- Only a sigma looks at the characters around it. -/
theorem foldChar_congr {char : Char}
    (same : char = 'Σ' → endsWord further later = endsWord before after) :
    foldChar further char later = foldChar before char after := by
  unfold foldChar
  by_cases sigma : char = 'Σ'
  · rw [same sigma]
  · rw [beq_eq_false_iff_ne.mpr sigma]
    rfl

/-- **A part without an open sigma is folded as on its own.** -/
theorem foldWithin_congr (closed : hasOpenSigma before part = false) (further later : List Char) :
    foldWithin (before ++ further) later part = foldWithin before [] part := by
  induction part generalizing before with
  | nil => rfl
  | cons char rest hypothesis =>
    rw [hasOpenSigma, Bool.or_eq_false_iff] at closed
    obtain ⟨here, rest_closed⟩ := closed
    have head : foldChar (before ++ further) char (rest ++ later)
        = foldChar before char (rest ++ []) := by
      refine foldChar_congr fun sigma => ?_
      rw [sigma, beq_self_eq_true, Bool.true_and] at here
      rw [endsWord_append_of_closed here, List.append_nil]
    rw [foldWithin, foldWithin, head, ← List.cons_append, hypothesis rest_closed]

/-- The small sigma without the form that ends words. -/
def plainSigma (char : Char) : Char := if char == 'ς' then 'σ' else char

/-- But for the form of a small sigma, nothing depends on the characters around. -/
theorem map_plainSigma_foldChar (before after further later : List Char) (char : Char) :
    (foldChar before char after).map plainSigma = (foldChar further char later).map plainSigma := by
  have one_form (ends : Bool) : plainSigma (if ends then 'ς' else 'σ') = 'σ' := by
    cases ends <;> rfl
  unfold foldChar
  split
  · rfl
  · split
    · rw [List.map_singleton, List.map_singleton, one_form, one_form]
    · rfl

theorem map_plainSigma_foldWithin (before after further later part : List Char) :
    (foldWithin before after part).map plainSigma
      = (foldWithin further later part).map plainSigma := by
  induction part generalizing before further with
  | nil => rfl
  | cons char rest hypothesis =>
    rw [foldWithin, foldWithin, List.map_append, List.map_append, hypothesis (char :: before),
      map_plainSigma_foldChar]

theorem length_foldChar (before after further later : List Char) (char : Char) :
    (foldChar before char after).length = (foldChar further char later).length := by
  have lengths := congrArg List.length (map_plainSigma_foldChar before after further later char)
  rwa [List.length_map, List.length_map] at lengths

theorem length_foldWithin (before after further later part : List Char) :
    (foldWithin before after part).length = (foldWithin further later part).length := by
  have lengths := congrArg List.length (map_plainSigma_foldWithin before after further later part)
  rwa [List.length_map, List.length_map] at lengths

theorem mem_map_plainSigma (before after : List Char) (sigma : 'Σ' ∈ part) :
    'σ' ∈ (foldWithin before after part).map plainSigma := by
  induction part generalizing before with
  | nil => nomatch sigma
  | cons char rest hypothesis =>
    rw [foldWithin, List.map_append, List.mem_append]
    rcases List.mem_cons.mp sigma with rfl | later
    · rw [map_plainSigma_foldChar before (rest ++ after) [] []]
      exact Or.inl (by decide +kernel)
    · exact Or.inr (hypothesis (char :: before) later)

theorem endsWord_of_foldChar (same : foldChar further 'Σ' later = foldChar before 'Σ' after) :
    endsWord further later = endsWord before after := by
  rw [show foldChar further 'Σ' later = [if endsWord further later then 'ς' else 'σ'] from rfl,
    show foldChar before 'Σ' after = [if endsWord before after then 'ς' else 'σ'] from rfl] at same
  generalize endsWord further later = one at same ⊢
  generalize endsWord before after = other at same ⊢
  cases one <;> cases other <;> first | rfl | exact absurd same (by decide)

/-- **A part that is folded as on its own, with a letter before it and with one behind it, has no
open sigma.** -/
theorem hasOpenSigma_eq_false
    (same_before : foldWithin (before ++ ['a']) [] part = foldWithin before [] part)
    (same_after : foldWithin before ['a'] part = foldWithin before [] part) :
    hasOpenSigma before part = false := by
  induction part generalizing before with
  | nil => rfl
  | cons char rest hypothesis =>
    rw [foldWithin, foldWithin] at same_before same_after
    obtain ⟨head_before, tail_before⟩ :=
      List.append_inj same_before (length_foldChar _ _ _ _ char)
    obtain ⟨head_after, tail_after⟩ := List.append_inj same_after (length_foldChar _ _ _ _ char)
    rw [List.append_nil] at head_before head_after
    rw [hasOpenSigma, hypothesis tail_before tail_after, Bool.or_false, Bool.and_eq_false_iff,
      beq_eq_false_iff_ne]
    by_cases sigma : char = 'Σ'
    · subst sigma
      exact Or.inr (isOpen_eq_false (endsWord_of_foldChar head_before)
        (endsWord_of_foldChar head_after))
    · exact Or.inl sigma

/-! ### Patterns in texts -/

variable {pattern text : String}

/-- **A steady pattern stands folded wherever it stands.** -/
theorem fold_infix_fold (steady : IsSteady pattern) (inside : pattern.toList <:+: text.toList) :
    (fold pattern).toList <:+: (fold text).toList := by
  obtain ⟨left, right, split⟩ := inside
  have alone : foldWithin left.reverse right pattern.toList = foldChars [] pattern.toList := by
    rw [← foldWithin_nil, ← foldWithin_congr steady left.reverse right, List.nil_append]
  rw [fold, fold, String.toList_ofList, String.toList_ofList, ← split, ← alone]
  exact foldWithin_infix left _ right

/-- Only a character over and over is the same when moved by a place. -/
theorem eq_of_shift {first last : Char} (shift : first :: chars = chars ++ [last]) :
    (∀ char ∈ chars, char = first) ∧ last = first := by
  induction chars generalizing first with
  | nil => exact ⟨List.forall_mem_nil _, (List.cons.inj shift).1.symm⟩
  | cons char rest hypothesis =>
    obtain ⟨rfl, tail⟩ := List.cons.inj shift
    obtain ⟨all, end_too⟩ := hypothesis tail
    exact ⟨List.forall_mem_cons.mpr ⟨rfl, all⟩, end_too⟩

/-- The small form of a part with a sigma is not its other form moved by a place, next to an `a`. -/
theorem not_shift {letter : Char} (sigma : 'Σ' ∈ part)
    (shift : 'a' :: foldWithin further later part = foldWithin before after part ++ [letter]
      ∨ letter :: foldWithin before after part = foldWithin further later part ++ ['a']) :
    False := by
  have plain := map_plainSigma_foldWithin before after further later part
  have inside := mem_map_plainSigma further later sigma
  rcases shift with shift | shift
  · have moved := congrArg (List.map plainSigma) shift
    rw [List.map_cons, List.map_append, plain] at moved
    exact absurd ((eq_of_shift moved).1 _ inside) (by decide)
  · have moved := congrArg (List.map plainSigma) shift
    rw [List.map_cons, List.map_append, plain] at moved
    obtain ⟨all, end_too⟩ := eq_of_shift moved
    exact absurd ((all _ inside).trans end_too.symm) (by decide)

/-- What stands in a text that is longer by a letter at the front stands behind that letter, or at
the front. -/
theorem eq_or_shift_of_infix_cons {shorter longer : List Char} {first : Char}
    (lengths : shorter.length = longer.length) (inside : shorter <:+: first :: longer) :
    shorter = longer ∨ ∃ letter, first :: longer = shorter ++ [letter] := by
  rcases List.infix_cons_iff.mp inside with ⟨rest, split⟩ | behind
  · have one : rest.length = 1 := by
      have counts := congrArg List.length split
      rw [List.length_append, List.length_cons, lengths] at counts
      exact Nat.add_left_cancel counts
    obtain ⟨letter, rfl⟩ := List.length_eq_one_iff.mp one
    exact Or.inr ⟨letter, split.symm⟩
  · exact Or.inl (behind.eq_of_length lengths)

theorem eq_or_shift_of_infix_concat {shorter longer : List Char} {last : Char}
    (lengths : shorter.length = longer.length) (inside : shorter <:+: longer ++ [last]) :
    shorter = longer ∨ ∃ letter, letter :: shorter = longer ++ [last] := by
  rcases List.infix_concat_iff.mp inside with ⟨start, split⟩ | front
  · have one : start.length = 1 := by
      have counts := congrArg List.length split
      rw [List.length_append, List.length_append, List.length_singleton, lengths,
        Nat.add_comm longer.length] at counts
      exact Nat.add_right_cancel counts
    obtain ⟨letter, rfl⟩ := List.length_eq_one_iff.mp one
    exact Or.inr ⟨letter, split⟩
  · exact Or.inl (front.eq_of_length lengths)

/-- **A pattern that is not steady is missed in some text in which it stands.** -/
theorem exists_missed (unsteady : ¬ IsSteady pattern) : ∃ text : String,
    pattern.toList <:+: text.toList ∧ ¬ (fold pattern).toList <:+: (fold text).toList := by
  have sigma : 'Σ' ∈ pattern.toList := by
    refine Classical.byContradiction fun absent => unsteady ?_
    exact hasOpenSigma_of_not_mem [] absent
  have alone : (fold pattern).toList = foldWithin [] [] pattern.toList := by
    rw [fold, String.toList_ofList, foldWithin_nil]
  by_cases same : foldWithin ['a'] [] pattern.toList = foldWithin [] [] pattern.toList
  · have other : foldWithin [] ['a'] pattern.toList ≠ foldWithin [] [] pattern.toList :=
      fun same_after => unsteady (hasOpenSigma_eq_false same same_after)
    refine ⟨String.ofList (pattern.toList ++ ['a']), ?_, fun found => ?_⟩
    · rw [String.toList_ofList]
      exact List.infix_append_left
    · have folded : (fold (String.ofList (pattern.toList ++ ['a']))).toList
          = foldWithin [] ['a'] pattern.toList ++ ['a'] := by
        rw [fold, String.toList_ofList, String.toList_ofList, foldChars_append]
        rfl
      rw [alone, folded] at found
      rcases eq_or_shift_of_infix_concat (length_foldWithin ..) found with equal | ⟨letter, shift⟩
      · exact other equal.symm
      · exact not_shift sigma (Or.inr shift)
  · refine ⟨String.ofList ('a' :: pattern.toList), ?_, fun found => ?_⟩
    · rw [String.toList_ofList]
      exact (List.suffix_cons _ _).isInfix
    · have folded : (fold (String.ofList ('a' :: pattern.toList))).toList
          = 'a' :: foldWithin ['a'] [] pattern.toList := by
        rw [fold, String.toList_ofList, String.toList_ofList, foldChars, foldWithin_nil]
        rfl
      rw [alone, folded] at found
      rcases eq_or_shift_of_infix_cons (length_foldWithin ..) found with equal | ⟨letter, shift⟩
      · exact same equal.symm
      · exact not_shift sigma (Or.inl shift)

end Paydesk.Text
