/-
**A pattern with a percent sign at each end searches for its text.**

A search column holds folded text and the pattern is folded and escaped. Between two folded texts
without ASCII capitals the operator's own folding of letters does nothing, escaped characters stand
for themselves, and the two percent signs leave open what comes before and after. What is left is
whether one text occurs in the other.

* `StandsForItself`, `Text.IsSearchable`: what the operator sees of a character and of a text;
* `Pattern.parse_escape`: an escaped text is read as its characters, by induction on it;
* `Pattern.isMatchedBy_chars`, `Pattern.isMatchedBy_around`: characters before a percent sign match
  the texts that begin so, and characters between two the texts that they occur in;
* `hasPattern_patternAround`: **a text has the pattern around another exactly where the other
  occurs in it**.
-/

import Mathlib.Data.List.TakeWhile
import Paydesk.Proofs.Text.Fold
import Paydesk.Store.Pattern

namespace Paydesk

/-! ### Texts as the operator sees them -/

/-- A character that the operator takes for itself, in a text and in a pattern: it ends neither and
is not read as another one. -/
def StandsForItself (char : Char) : Prop := char ≠ '\x00' ∧ matchedChar char = char

instance : DecidablePred StandsForItself := fun _ => inferInstanceAs (Decidable (_ ∧ _))

/-- A text of such characters. -/
def Text.IsSearchable (text : String) : Prop := ∀ char ∈ text.toList, StandsForItself char

/-- Only the characters of the text are looked at, not all that there are. -/
instance : DecidablePred Text.IsSearchable := fun text =>
  List.decidableBAll StandsForItself text.toList

theorem standsForItself_of_letterCode {char : Char} (letter : Text.IsLetterCode char.toNat) :
    StandsForItself char := by
  obtain ⟨not_null, not_first, not_second⟩ := letter
  refine ⟨fun null => not_null (by rw [null]; rfl), ?_⟩
  unfold matchedChar
  have first : (char == '\ufffe') = false := beq_eq_false_iff_ne.mpr fun same =>
    not_first (by rw [same]; rfl)
  have second : (char == '\uffff') = false := beq_eq_false_iff_ne.mpr fun same =>
    not_second (by rw [same]; rfl)
  rw [first, second]
  rfl

/-- The operator sees a text of such characters as it is. -/
theorem matchedChars_eq {chars : List Char} (itself : ∀ char ∈ chars, StandsForItself char) :
    matchedChars chars = chars := by
  have whole : chars.takeWhile (· != '\x00') = chars := by
    rw [List.takeWhile_eq_self_iff]
    intro char member
    exact bne_iff_ne.mpr (itself char member).1
  calc matchedChars chars = chars.map matchedChar := by rw [matchedChars, whole]
    _ = chars.map id := List.map_congr_left fun char member => (itself char member).2
    _ = chars := List.map_id chars

/-- Folding makes no character that the operator would take for another. -/
theorem standsForItself_of_mem_fold {text : String} (searchable : Text.IsSearchable text)
    {char : Char} (member : char ∈ (Text.fold text).toList) : StandsForItself char := by
  rcases Text.mem_fold member with kept | letter
  · exact searchable char kept
  · exact standsForItself_of_letterCode letter

/-! ### Escaped texts as patterns -/

namespace Pattern

theorem parse_char {char : Char} {rest : List Char} (plain : char ∉ ['%', '_', '\\']) :
    parse (char :: rest) = .char char :: parse rest := by
  rw [parse]
  all_goals
    intros
    simp_all

/-- An escaped text is read as its characters. -/
theorem parse_escape (chars rest : List Char) :
    parse (escapePattern chars ++ rest) = chars.map .char ++ parse rest := by
  induction chars with
  | nil => rfl
  | cons char chars hypothesis =>
    have escaped : escapePattern (char :: chars)
        = (if ['%', '_', '\\'].contains char then ['\\', char] else [char])
          ++ escapePattern chars := rfl
    rw [escaped, List.map_cons, List.cons_append, ← hypothesis]
    by_cases special : ['%', '_', '\\'].contains char
    · rw [if_pos special]
      rfl
    · rw [if_neg special]
      rw [List.contains_iff_mem] at special
      exact parse_char special

theorem mem_escapePattern {chars : List Char} {char : Char} (member : char ∈ escapePattern chars) :
    char = '\\' ∨ char ∈ chars := by
  obtain ⟨source, inside, part⟩ := List.mem_flatMap.mp member
  split at part
  · rw [List.mem_cons, List.mem_singleton] at part
    exact part.imp_right fun same : char = source => same ▸ inside
  · exact Or.inr (List.mem_singleton.mp part ▸ inside)

theorem parse_patternAround (chars : List Char) :
    parse (patternAround chars) = .anything :: (chars.map .char ++ [.anything]) := by
  have opened : parse (patternAround chars) = .anything :: parse (escapePattern chars ++ ['%']) := rfl
  rw [opened, parse_escape]
  rfl

/-! ### What matches -/

theorem isMatchedBy_anything (chars : List Char) : isMatchedBy [.anything] chars = true := by
  have end_mem : [] ∈ endsOf chars := by
    induction chars with
    | nil => exact List.mem_singleton.mpr rfl
    | cons char rest hypothesis => exact List.mem_cons_of_mem _ hypothesis
  exact List.any_eq_true.mpr ⟨[], end_mem, rfl⟩

/-- Characters and a percent sign are matched by the texts that begin with these characters, where
no ASCII capital stands on either side. -/
theorem isMatchedBy_chars {pattern chars : List Char}
    (small_pattern : ∀ char ∈ pattern, char.isUpper = false)
    (small : ∀ char ∈ chars, char.isUpper = false) :
    isMatchedBy (pattern.map .char ++ [.anything]) chars = pattern.isPrefixOf chars := by
  induction pattern generalizing chars with
  | nil => rw [List.isPrefixOf_nil_left]; exact isMatchedBy_anything chars
  | cons letter pattern hypothesis =>
    cases chars with
    | nil => rfl
    | cons char chars =>
      rw [List.forall_mem_cons] at small_pattern small
      have letter_kept : letter.toLower = letter := dif_neg (of_decide_eq_false small_pattern.1)
      have char_kept : char.toLower = char := dif_neg (of_decide_eq_false small.1)
      rw [List.map_cons, List.cons_append, isMatchedBy, hypothesis small_pattern.2 small.2,
        letter_kept, char_kept, List.isPrefixOf_cons_cons, Bool.beq_comm]

/-- A percent sign before them lets the characters begin at any place. -/
theorem isMatchedBy_around {pattern chars : List Char}
    (small_pattern : ∀ char ∈ pattern, char.isUpper = false)
    (small : ∀ char ∈ chars, char.isUpper = false) :
    isMatchedBy (.anything :: (pattern.map .char ++ [.anything])) chars
      = Text.occursIn pattern chars := by
  rw [isMatchedBy]
  induction chars with
  | nil =>
    rw [endsOf, List.any_cons, List.any_nil, Bool.or_false,
      isMatchedBy_chars small_pattern small, Text.occursIn]
    cases pattern <;> rfl
  | cons char rest hypothesis =>
    rw [endsOf, List.any_cons, isMatchedBy_chars small_pattern small,
      hypothesis (List.forall_mem_cons.mp small).2, Text.occursIn]

end Pattern

/-- **A folded text has the pattern around another exactly where the other occurs in it.** -/
theorem hasPattern_patternAround {text pattern : String} (searchable : Text.IsSearchable text)
    (searchable_pattern : Text.IsSearchable pattern) :
    hasPattern (Text.fold text).toList (patternAround (Text.fold pattern).toList)
      = Text.contains (Text.fold text) (Text.fold pattern) := by
  have text_seen : matchedChars (Text.fold text).toList = (Text.fold text).toList :=
    matchedChars_eq fun _ member => standsForItself_of_mem_fold searchable member
  have pattern_seen : matchedChars (patternAround (Text.fold pattern).toList)
      = patternAround (Text.fold pattern).toList := by
    refine matchedChars_eq fun char member => ?_
    rcases List.mem_cons.mp member with rfl | inside
    · decide
    · rcases List.mem_append.mp inside with escaped | last
      · rcases Pattern.mem_escapePattern escaped with rfl | kept
        · decide
        · exact standsForItself_of_mem_fold searchable_pattern kept
      · rw [List.mem_singleton.mp last]
        decide
  unfold hasPattern Text.contains
  rw [text_seen, pattern_seen, Pattern.parse_patternAround]
  exact Pattern.isMatchedBy_around (fun _ => Text.isUpper_of_mem_fold)
    (fun _ => Text.isUpper_of_mem_fold)

end Paydesk
