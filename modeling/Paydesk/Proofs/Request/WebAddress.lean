/-
**Addresses of the web.**

An address is a scheme, a host, perhaps a number after a colon, and perhaps a path, query or
fragment. A text is accepted exactly if it is made up of such parts, where the letters of the scheme
and the digits of the number are taken from all of Unicode. So every address in ASCII is accepted;
what is accepted besides has a long s in its scheme or a digit of another script in its number.

* `AddressParts`, `AddressParts.IsFormed`: the parts, for any choice of letters and digits;
* `afterScheme?_eq_some_iff`, `isTail_iff`, `isNumberAndTail_iff`: what each step accepts;
* `AddressParts.eq_of_chars_eq`: a text has its parts in one way;
* `isUrl_iff`: **which texts are accepted**;
* `isUrl_iff_longS`: an address with a long s, and one with Arabic digits.
-/

import Mathlib.Data.List.Forall2
import Mathlib.Data.List.TakeWhile
import Paydesk.Proofs.Text.Digits
import Paydesk.Request.Format

namespace Paydesk

/-- The parts of an address. -/
structure AddressParts where
  scheme : List Char
  host : List Char
  number : Option (List Char)
  tail : List Char

/-- Characters that match a word letter by letter. -/
def Spells (letter : Char → Char → Bool) (word : String) (chars : List Char) : Prop :=
  List.Forall₂ (fun expected char => letter expected char = true) word.toList chars

/-- A letter of ASCII in either case. -/
def isEitherCase (letter char : Char) : Bool := char == letter || char == letter.toUpper

namespace AddressParts

/-- A number as it is written. -/
def numberText (number : Option (List Char)) : List Char := number.elim [] (':' :: ·)

/-- An address as it is written. -/
def chars (parts : AddressParts) : List Char :=
  parts.scheme ++ ':' :: '/' :: '/' :: (parts.host ++ (numberText parts.number ++ parts.tail))

/-- One to five digits. -/
def IsNumber (digit : Char → Bool) (digits : List Char) : Prop :=
  (1 ≤ digits.length ∧ digits.length ≤ 5) ∧ ∀ char ∈ digits, digit char

/-- Nothing, or a path, query or fragment without white space. -/
def IsTail (chars : List Char) : Prop :=
  ∀ first rest, chars = first :: rest →
    first ∈ ['/', '?', '#'] ∧ ∀ char ∈ rest, Text.isBlank char = false

/-- The parts of an address whose scheme is spelled with some letters and whose number is written
with some digits. -/
structure IsFormed (letter : Char → Char → Bool) (digit : Char → Bool) (parts : AddressParts) :
    Prop where
  scheme : Spells letter "http" parts.scheme ∨ Spells letter "https" parts.scheme
  someHost : parts.host ≠ []
  host : ∀ char ∈ parts.host, Text.isBlank char = false ∧ char ∉ ['/', '?', '#', ':', '@']
  number : ∀ digits ∈ parts.number, IsNumber digit digits
  tail : IsTail parts.tail

end AddressParts

/-- A text is an address with some letters and some digits. -/
def IsAddress (letter : Char → Char → Bool) (digit : Char → Bool) (text : String) : Prop :=
  ∃ parts : AddressParts, parts.chars = text.toList ∧ parts.IsFormed letter digit

open AddressParts (IsFormed IsNumber IsTail numberText)

/-! ### Schemes -/

section Schemes

variable {letter : Char → Char → Bool}

/-- The characters at the front of a text that match a word. -/
theorem all_zip_iff {word chars : List Char} :
    ((word.zip chars).all (fun (expected, char) => letter expected char)
        && decide (word.length ≤ chars.length)) = true
      ↔ List.Forall₂ (fun expected char => letter expected char = true) word
          (chars.take word.length) := by
  induction word generalizing chars with
  | nil => simp
  | cons expected word hypothesis =>
    cases chars with
    | nil => simp
    | cons char chars =>
      rw [List.length_cons, List.take_succ_cons, List.forall₂_cons, ← hypothesis]
      simp [and_assoc]

theorem spells_https_iff {chars : List Char} : Spells letter "https" chars
    ↔ ∃ http last, chars = http ++ [last] ∧ Spells letter "http" http ∧ letter 's' last := by
  change List.Forall₂ _ ['h', 't', 't', 'p', 's'] chars
    ↔ ∃ http last, _ ∧ List.Forall₂ _ ['h', 't', 't', 'p'] http ∧ _
  constructor
  · intro spells
    rcases spells with _ | ⟨one, _ | ⟨two, _ | ⟨three, _ | ⟨four, _ | ⟨five, _ | _⟩⟩⟩⟩⟩
    exact ⟨_, _, rfl, .cons one (.cons two (.cons three (.cons four .nil))), five⟩
  · rintro ⟨http, last, rfl, spells, five⟩
    exact List.rel_append spells (.cons five .nil)

theorem length_of_spells {word : String} {chars : List Char} (spells : Spells letter word chars) :
    chars.length = word.toList.length :=
  spells.length_eq.symm

end Schemes

/-- What is left of an address after its scheme. -/
theorem afterScheme?_eq_some_iff {chars rest : List Char} : afterScheme? chars = some rest
    ↔ ∃ scheme, chars = scheme ++ ':' :: '/' :: '/' :: rest
      ∧ (Spells matchesLetter "http" scheme ∨ Spells matchesLetter "https" scheme) := by
  have front : (("http".toList.zip chars).all (fun (expected, char) => matchesLetter expected char)
      && decide (4 ≤ chars.length)) = true ↔ Spells matchesLetter "http" (chars.take 4) :=
    all_zip_iff
  unfold afterScheme?
  constructor
  · intro found
    split at found
    · rename_i http
      have spells := front.mp http
      have whole := (List.take_append_drop 4 chars).symm
      split at found
      · rename_i shape
        cases found
        exact ⟨_, shape ▸ whole, Or.inl spells⟩
      · rename_i first others shape
        split at found
        · rename_i last
          cases found
          refine ⟨chars.take 4 ++ [first], ?_, Or.inr (spells_https_iff.mpr ⟨_, _, rfl, spells, last⟩)⟩
          rw [List.append_assoc, List.singleton_append, ← shape]
          exact whole
        · cases found
      · cases found
    · cases found
  · rintro ⟨scheme, rfl, http | https⟩
    · have length : scheme.length = 4 := length_of_spells http
      rw [List.take_left' length] at front
      rw [if_pos (front.mpr http), List.drop_left' length]
      rfl
    · obtain ⟨http, last, rfl, spells, s⟩ := spells_https_iff.mp https
      have length : http.length = 4 := length_of_spells spells
      rw [List.append_assoc, List.take_left' length] at front
      rw [List.append_assoc, if_pos (front.mpr spells), List.drop_left' length]
      have letter : last ≠ ':' := by
        rintro rfl
        exact absurd s (by decide)
      split
      · rename_i shape
        exact absurd (List.cons.inj shape).1 letter
      · rename_i shape
        cases shape
        rw [if_pos s]
      · rename_i none
        exact absurd rfl (none _ _)

/-! ### Hosts, numbers and tails -/

theorem isTail_iff {chars : List Char} : isTail chars = true ↔ IsTail chars := by
  cases chars with
  | nil => simp [isTail, IsTail]
  | cons first rest =>
    unfold isTail IsTail
    simp

theorem endsHost_eq_false_iff {char : Char} : endsHost char = false
    ↔ Text.isBlank char = false ∧ char ∉ ['/', '?', '#', ':', '@'] := by
  unfold endsHost
  simp

/-- What goes on before a path, query or fragment does not go on with it. -/
theorem AddressParts.IsTail.stops {chars : List Char} (isTail : IsTail chars) {accept : Char → Bool}
    (slash : accept '/' = false) (question : accept '?' = false) (hash : accept '#' = false) :
    Text.Stops accept chars := by
  cases chars with
  | nil => exact Text.stops_nil
  | cons first rest =>
    refine Text.stops_cons.mpr ?_
    have start := (isTail first rest rfl).1
    simp only [List.mem_cons, List.not_mem_nil, or_false] at start
    rcases start with rfl | rfl | rfl
    · exact slash
    · exact question
    · exact hash

section Numbers

variable {number other : Option (List Char)} {tail rest : List Char}

/-- A number ends where its digits do. -/
theorem numberText_inj (digits : ∀ digits ∈ number, IsNumber Text.isDecimalDigit digits)
    (isTail : IsTail tail) (others : ∀ digits ∈ other, IsNumber Text.isDecimalDigit digits)
    (isTail_other : IsTail rest) (same : numberText number ++ tail = numberText other ++ rest) :
    number = other ∧ tail = rest := by
  have colon {chars more : List Char} (isTail : IsTail chars) (start : chars = ':' :: more) : False :=
    absurd (isTail _ _ start).1 (by decide)
  cases number <;> cases other
  case none.none => exact ⟨rfl, same⟩
  case none.some => exact (colon isTail same).elim
  case some.none => exact (colon isTail_other same.symm).elim
  case some.some chars others_chars =>
    replace same : chars ++ tail = others_chars ++ rest := (List.cons.inj same).2
    have run := Text.takeWhile_run (digits chars rfl).2 (isTail.stops rfl rfl rfl)
    have other_run := Text.takeWhile_run (others others_chars rfl).2 (isTail_other.stops rfl rfl rfl)
    rw [same, other_run] at run
    subst run
    exact ⟨rfl, List.append_cancel_left same⟩

/-- A number if there is one, and a tail. -/
theorem isNumberAndTail_iff {chars : List Char} : isNumberAndTail chars = true
    ↔ ∃ number tail, chars = numberText number ++ tail
      ∧ (∀ digits ∈ number, IsNumber Text.isDecimalDigit digits) ∧ IsTail tail := by
  constructor
  · intro accepted
    unfold isNumberAndTail at accepted
    split at accepted
    · rename_i rest
      simp only [Bool.and_eq_true, decide_eq_true_eq, isTail_iff, Text.drop_length_takeWhile]
        at accepted
      obtain ⟨few, isTail⟩ := accepted
      refine ⟨some (rest.takeWhile Text.isDecimalDigit), rest.dropWhile Text.isDecimalDigit, ?_, ?_,
        isTail⟩
      · exact congrArg (':' :: ·) List.takeWhile_append_dropWhile.symm
      · rintro digits ⟨⟩
        exact ⟨few, fun char member => List.mem_takeWhile_imp member⟩
    · exact ⟨none, chars, rfl, nofun, isTail_iff.mp accepted⟩
  · rintro ⟨number, tail, rfl, digits, isTail⟩
    cases number with
    | none =>
      change isNumberAndTail tail = true
      unfold isNumberAndTail
      split
      · exact absurd (isTail ':' _ rfl).1 (by decide)
      · exact isTail_iff.mpr isTail
    | some chars =>
      obtain ⟨few, accepted⟩ := digits chars rfl
      have run := Text.takeWhile_run accepted (isTail.stops rfl rfl rfl)
      change isNumberAndTail (':' :: (chars ++ tail)) = true
      unfold isNumberAndTail
      simp only [run, List.drop_left, Bool.and_eq_true, decide_eq_true_eq, isTail_iff]
      exact ⟨few, isTail⟩

end Numbers

namespace AddressParts.IsFormed

variable {parts other : AddressParts} (formed : parts.IsFormed matchesLetter Text.isDecimalDigit)

include formed

theorem afterScheme?_eq : afterScheme? parts.chars
    = some (parts.host ++ (numberText parts.number ++ parts.tail)) :=
  afterScheme?_eq_some_iff.mpr ⟨_, rfl, formed.scheme⟩

/-- A host ends before a number or a tail. -/
theorem takeWhile_eq : (parts.host ++ (numberText parts.number ++ parts.tail)).takeWhile
    (!endsHost ·) = parts.host := by
  refine Text.takeWhile_run (fun char member => ?_) ?_
  · rw [endsHost_eq_false_iff.mpr (formed.host char member)]
    rfl
  · cases parts.number with
    | none => exact formed.tail.stops rfl rfl rfl
    | some digits => exact Text.stops_cons.mpr rfl

/-- **A text has its parts in one way.** -/
theorem eq_of_chars_eq (others : other.IsFormed matchesLetter Text.isDecimalDigit)
    (same : parts.chars = other.chars) : parts = other := by
  have rest := formed.afterScheme?_eq
  rw [same, others.afterScheme?_eq, Option.some_inj] at rest
  have host := others.takeWhile_eq
  rw [rest, formed.takeWhile_eq] at host
  rw [host, List.append_cancel_left_eq] at rest
  obtain ⟨number, tail⟩ := numberText_inj others.number others.tail formed.number formed.tail rest
  have scheme : parts.scheme = other.scheme := by
    unfold chars at same
    rw [host, number, tail] at same
    exact List.append_cancel_right same
  obtain ⟨_, _, _, _⟩ := parts
  obtain ⟨_, _, _, _⟩ := other
  simp only at scheme host number tail
  rw [scheme, host, number, tail]

end AddressParts.IsFormed

/-- **A text is accepted exactly if it is an address.** -/
theorem isUrl_iff_isAddress {text : String} :
    isUrl text = true ↔ IsAddress matchesLetter Text.isDecimalDigit text := by
  constructor
  · intro accepted
    unfold isUrl at accepted
    split at accepted
    · rename_i rest found
      obtain ⟨scheme, shape, spells⟩ := afterScheme?_eq_some_iff.mp found
      simp only [Bool.and_eq_true, Bool.not_eq_true', List.isEmpty_eq_false_iff,
        Text.drop_length_takeWhile] at accepted
      obtain ⟨someHost, numbered⟩ := accepted
      obtain ⟨number, tail, split, digits, isTail⟩ := isNumberAndTail_iff.mp numbered
      refine ⟨⟨scheme, rest.takeWhile (!endsHost ·), number, tail⟩, ?_,
        ⟨spells, someHost, fun char member => ?_, digits, isTail⟩⟩
      · rw [shape, AddressParts.chars, ← split, List.takeWhile_append_dropWhile]
      · have inside := List.mem_takeWhile_imp member
        exact endsHost_eq_false_iff.mp ((Bool.not_eq_true' _).mp inside)
    · cases accepted
  · rintro ⟨parts, chars, formed⟩
    unfold isUrl
    simp only [← chars, formed.afterScheme?_eq, formed.takeWhile_eq, List.drop_left,
      Bool.and_eq_true, Bool.not_eq_true', List.isEmpty_eq_false_iff]
    exact ⟨formed.someHost, isNumberAndTail_iff.mpr ⟨_, _, rfl, formed.number, formed.tail⟩⟩

/-! ### Addresses in ASCII -/

theorem isDecimalDigit_of_isDigit {char : Char} (digit : Text.isDigit char) :
    Text.isDecimalDigit char = true := by
  have bounds := Text.toNat_of_isDigit digit
  unfold Text.isDecimalDigit Text.decimalDigits Text.CodeRange.holds
  rw [List.any_cons, Bool.or_eq_true, Bool.and_eq_true, decide_eq_true_eq, decide_eq_true_eq]
  exact Or.inl bounds

/-- The decimal digits among the characters of ASCII. -/
theorem isDigit_of_isDecimalDigit {char : Char} (digit : Text.isDecimalDigit char)
    (ascii : char.toNat < 128) : Text.isDigit char = true := by
  have others : ∀ range ∈ Text.decimalDigits.tail, 128 ≤ range.first := by decide
  obtain ⟨range, member, inside⟩ := List.any_eq_true.mp digit
  rw [Bool.and_eq_true, decide_eq_true_eq, decide_eq_true_eq] at inside
  rcases List.mem_cons.mp member with rfl | foreign
  · unfold Text.isDigit
    rw [Bool.and_eq_true, decide_eq_true_eq, decide_eq_true_eq]
    exact inside
  · have beyond := others range foreign
    omega

/-- A letter is matched by itself in either case, and s by the long s too. -/
theorem isEitherCase_iff {letter char : Char} (plain : letter ≠ 'ſ' ∧ letter.toUpper ≠ 'ſ') :
    isEitherCase letter char = true ↔ matchesLetter letter char = true ∧ char ≠ 'ſ' := by
  unfold isEitherCase matchesLetter
  simp only [Bool.or_eq_true, Bool.and_eq_true, beq_iff_eq]
  constructor
  · rintro (rfl | rfl)
    · exact ⟨Or.inl (Or.inl rfl), plain.1⟩
    · exact ⟨Or.inl (Or.inr rfl), plain.2⟩
  · rintro ⟨either | ⟨-, long⟩, short⟩
    · exact either
    · exact absurd long short

theorem spells_isEitherCase_iff {word : String} {chars : List Char}
    (plain : ∀ letter ∈ word.toList, letter ≠ 'ſ' ∧ letter.toUpper ≠ 'ſ') :
    Spells isEitherCase word chars ↔ Spells matchesLetter word chars ∧ 'ſ' ∉ chars := by
  unfold Spells
  generalize word.toList = letters at plain
  induction letters generalizing chars with
  | nil => cases chars <;> simp
  | cons letter letters hypothesis =>
    rw [List.forall_mem_cons] at plain
    cases chars with
    | nil => simp
    | cons char chars =>
      rw [List.forall₂_cons, List.forall₂_cons, isEitherCase_iff plain.1, hypothesis plain.2,
        List.mem_cons, not_or, ne_comm]
      tauto

/-- The parts of an address in ASCII. -/
theorem AddressParts.isFormed_ascii_iff {parts : AddressParts} :
    parts.IsFormed isEitherCase Text.isDigit
      ↔ parts.IsFormed matchesLetter Text.isDecimalDigit ∧ 'ſ' ∉ parts.scheme
        ∧ ∀ digits ∈ parts.number, ∀ char ∈ digits, Text.isDigit char = true := by
  have http : Spells isEitherCase "http" parts.scheme
      ↔ Spells matchesLetter "http" parts.scheme ∧ 'ſ' ∉ parts.scheme :=
    spells_isEitherCase_iff (by simp)
  have https : Spells isEitherCase "https" parts.scheme
      ↔ Spells matchesLetter "https" parts.scheme ∧ 'ſ' ∉ parts.scheme :=
    spells_isEitherCase_iff (by simp)
  constructor
  · rintro ⟨scheme, someHost, host, number, tail⟩
    rw [http, https, ← or_and_right] at scheme
    refine ⟨⟨scheme.1, someHost, host, fun digits member => ?_, tail⟩, scheme.2,
      fun digits member => (number digits member).2⟩
    obtain ⟨few, accepted⟩ := number digits member
    exact ⟨few, fun char inside => isDecimalDigit_of_isDigit (accepted char inside)⟩
  · rintro ⟨⟨scheme, someHost, host, number, tail⟩, short, ascii⟩
    refine ⟨?_, someHost, host, fun digits member => ⟨(number digits member).1, ascii digits member⟩,
      tail⟩
    rw [http, https, ← or_and_right]
    exact ⟨scheme, short⟩

/-- **Which texts are accepted.** For every text:

* it is accepted exactly if it is an address, whose scheme may have a long s for its s and whose
  number may be written in the digits of any script;
* it is an address in ASCII, with the letters of the scheme in either case, exactly if it is
  accepted and its scheme has no long s and its number no other digits;
* so a text in ASCII is accepted exactly if it is an address in ASCII. -/
theorem isUrl_iff (text : String) :
    (isUrl text = true ↔ IsAddress matchesLetter Text.isDecimalDigit text)
      ∧ (IsAddress isEitherCase Text.isDigit text ↔ isUrl text = true
        ∧ ∀ parts : AddressParts, parts.chars = text.toList →
          parts.IsFormed matchesLetter Text.isDecimalDigit →
            'ſ' ∉ parts.scheme
              ∧ ∀ digits ∈ parts.number, ∀ char ∈ digits, Text.isDigit char = true)
      ∧ ((∀ char ∈ text.toList, char.toNat < 128) →
        (isUrl text = true ↔ IsAddress isEitherCase Text.isDigit text)) := by
  have inAscii : IsAddress isEitherCase Text.isDigit text ↔ isUrl text = true
      ∧ ∀ parts : AddressParts, parts.chars = text.toList →
        parts.IsFormed matchesLetter Text.isDecimalDigit → 'ſ' ∉ parts.scheme
          ∧ ∀ digits ∈ parts.number, ∀ char ∈ digits, Text.isDigit char = true := by
    constructor
    · rintro ⟨parts, chars, ascii⟩
      obtain ⟨formed, plain⟩ := AddressParts.isFormed_ascii_iff.mp ascii
      refine ⟨isUrl_iff_isAddress.mpr ⟨parts, chars, formed⟩, fun other same others => ?_⟩
      rwa [others.eq_of_chars_eq formed (same.trans chars.symm)]
    · rintro ⟨accepted, plain⟩
      obtain ⟨parts, chars, formed⟩ := isUrl_iff_isAddress.mp accepted
      exact ⟨parts, chars, AddressParts.isFormed_ascii_iff.mpr ⟨formed, plain parts chars formed⟩⟩
  refine ⟨isUrl_iff_isAddress, inAscii, fun ascii => ?_⟩
  rw [inAscii, iff_self_and]
  intro accepted parts chars formed
  have inside {char : Char} (member : char ∈ parts.chars) : char.toNat < 128 :=
    ascii char (chars ▸ member)
  constructor
  · intro long
    have small := inside (List.mem_append_left _ long)
    exact absurd small (by decide)
  · intro digits number char member
    refine isDigit_of_isDecimalDigit ((formed.number digits number).2 char member) (inside ?_)
    have shown : char ∈ numberText parts.number := by
      rw [Option.mem_def.mp number]
      exact List.mem_cons_of_mem _ member
    simp [AddressParts.chars, shown]

/-- **An address with a long s, and one whose number is an Arabic digit**, are accepted like one in
ASCII, which they are not. -/
theorem isUrl_iff_longS :
    isUrl "httpſ://acme.example" = true ∧ isUrl "http://a:٣" = true
      ∧ ¬IsAddress isEitherCase Text.isDigit "httpſ://acme.example"
      ∧ ¬IsAddress isEitherCase Text.isDigit "http://a:٣"
      ∧ IsAddress isEitherCase Text.isDigit "HTTPS://acme.example:8080/ok?order=1" := by
  refine ⟨by decide, by decide, fun address => ?_, fun address => ?_,
    ((isUrl_iff _).2.2 (by simp)).mp (by decide)⟩
  · let parts : AddressParts := ⟨"httpſ".toList, "acme.example".toList, none, []⟩
    have spells : Spells matchesLetter "https" parts.scheme :=
      .cons rfl (.cons rfl (.cons rfl (.cons rfl (.cons rfl .nil))))
    have formed : parts.IsFormed matchesLetter Text.isDecimalDigit :=
      ⟨Or.inr spells, by decide, List.forall_iff_forall_mem.mp (by decide), nofun, nofun⟩
    exact absurd (((isUrl_iff _).2.1.mp address).2 parts rfl formed).1 (by decide)
  · let parts : AddressParts := ⟨"http".toList, ['a'], some ['٣'], []⟩
    have spells : Spells matchesLetter "http" parts.scheme :=
      .cons rfl (.cons rfl (.cons rfl (.cons rfl .nil)))
    have number : ∀ digits ∈ parts.number, IsNumber Text.isDecimalDigit digits := by
      rintro digits ⟨⟩
      exact ⟨by decide, List.forall_mem_singleton.mpr rfl⟩
    have formed : parts.IsFormed matchesLetter Text.isDecimalDigit :=
      ⟨Or.inl spells, by decide, List.forall_mem_singleton.mpr (by decide), number, nofun⟩
    have digits := (((isUrl_iff _).2.1.mp address).2 parts rfl formed).2
    exact absurd (digits _ rfl '٣' List.mem_cons_self) (by decide)

end Paydesk
