/-
**Addresses read back.**

Bytes between points and groups between colons are read back one by one; a run of zeros that was
left out is as long as the groups that are missing.

* `foldl_parts`: the parts of a number in a base make it up again;
* `readByte?_digits`, `readGroup?_digits`: one byte, and one group of hexadecimal digits;
* `readShort?_writeBytes`: four bytes; `readShort?_eq_none`: no bytes without a point after the
  first of them;
* `readGroups_writeGroups`: groups before a gap or the end;
* `longestZeros_spec`: the run of zeros that is left out;
* `Address.read?_write`: **an address is read back from its text**.
-/

import Mathlib.Data.List.TakeWhile
import Mathlib.Tactic.Ring
import Paydesk.Network.Address
import Paydesk.Proofs.Text.Digits

namespace Paydesk.Address

open Text (Stops digits isDigit)

/-! ### Parts of numbers -/

/-- The lowest parts of a number make up its remainder. -/
theorem foldl_parts (base count number start : Nat) :
    (parts base count number).foldl (fun total part => total * base + part) start
      = start * base ^ count + number % base ^ count := by
  induction count generalizing start with
  | zero => simp [parts, Nat.mod_one]
  | succ count hypothesis =>
    rw [parts, List.foldl_cons, hypothesis, Nat.mod_pow_succ, Nat.pow_eq]
    ring

theorem length_parts (base count number : Nat) : (parts base count number).length = count := by
  induction count with
  | zero => rfl
  | succ count hypothesis => rw [parts, List.length_cons, hypothesis]

theorem lt_of_mem_parts {base count number part : Nat} (positive : 0 < base)
    (member : part ∈ parts base count number) : part < base := by
  induction count with
  | zero => exact absurd member List.not_mem_nil
  | succ count hypothesis =>
    rcases List.mem_cons.mp member with first | later
    · exact first ▸ Nat.mod_lt _ positive
    · exact hypothesis later

/-! ### Bytes -/

section Digits

variable {base width : Nat} {value? : Char → Option Nat} {rest : List Char}

/-- The digits of a number, before something that is no digit. -/
theorem readDigits?_toDigits (large : 1 < base) (wide : 0 < width)
    (values : ∀ digit < base, value? digit.digitChar = some digit) {number : Nat}
    (fits : number < base ^ width) (stops : Stops (fun char => (value? char).isSome) rest) :
    readDigits? base width value? (Nat.toDigits base number ++ rest)
      = some (number, (Nat.toDigits base number).length, rest) := by
  have short : (Nat.toDigits base number).length ≤ width :=
    (Nat.length_toDigits_le_iff large wide).mpr fits
  have accepted : ((Nat.toDigits base number).isEmpty
      || decide (width < (Nat.toDigits base number).length)) = false := by
    simp [Nat.not_lt.mpr short]
  unfold readDigits?
  rw [Text.takeWhile_run (fun _ => Text.isSome_of_mem_toDigits large values) stops]
  simp only [accepted, Text.foldl_toDigits large values, Bool.false_eq_true, if_false,
    List.drop_left]

end Digits

section Bytes

variable {rest : List Char}

theorem stops_digitValue? (stops : Stops isDigit rest) :
    Stops (fun char => (Text.digitValue? char).isSome) rest := by
  intro char first
  simp only [Text.isSome_digitValue?]
  exact stops char first

/-- One byte. -/
theorem readByte?_digits {byte : Nat} (small : byte < 256) (stops : Stops isDigit rest) :
    readByte? (digits byte ++ rest) = some (byte, rest) := by
  have read := readDigits?_toDigits (by decide) (by decide) Text.digitValue?_digitChar
    (by omega : byte < 10 ^ 3) (stops_digitValue? stops)
  have head : (digits byte ++ rest).head? = (digits byte).head? :=
    List.head?_append_of_ne_nil _ (Text.digits_ne_nil byte)
  have noZero : ¬((digits byte).head? = some '0' ∧ 1 < (digits byte).length) := by
    rintro ⟨zero, long⟩
    exact Text.head?_digits_ne_zero long zero
  have accepted : (decide (byte < 256) && !((digits byte ++ rest).head? == some '0'
      && decide (1 < (digits byte).length))) = true := by
    rw [head]
    simp only [small, decide_true, Bool.true_and, Bool.not_eq_true', Bool.and_eq_false_imp,
      beq_iff_eq, decide_eq_false_iff_not]
    exact fun zero long => noZero ⟨zero, long⟩
  unfold readByte?
  simp only [digits] at accepted ⊢
  simp only [read, Option.bind_eq_bind, Option.bind_some]
  exact if_pos accepted

/-- Bytes that each follow a point. -/
theorem readMoreBytes?_write {bytes : List Nat} (small : ∀ byte ∈ bytes, byte < 256)
    (stops : Stops isDigit rest) (start : Nat) :
    readMoreBytes? bytes.length start (bytes.flatMap (fun byte => '.' :: digits byte) ++ rest)
      = some (bytes.foldl (fun total byte => total * 256 + byte) start, rest) := by
  induction bytes generalizing start with
  | nil => rfl
  | cons byte bytes hypothesis =>
    rw [List.forall_mem_cons] at small
    have next : Stops isDigit (bytes.flatMap (fun byte => '.' :: digits byte) ++ rest) := by
      cases bytes with
      | nil => exact stops
      | cons other others => exact Text.stops_cons.mpr rfl
    rw [List.flatMap_cons, List.cons_append, List.cons_append, List.append_assoc, List.length_cons,
      readMoreBytes?, readByte?_digits small.1 next]
    exact hypothesis small.2 _

theorem toList_intercalate (separator first : String) (more : List String) :
    (separator.intercalate (first :: more)).toList
      = first.toList ++ more.flatMap fun text => separator.toList ++ text.toList := by
  induction more generalizing first with
  | nil => simp
  | cons next more hypothesis =>
    rw [String.intercalate_cons_cons, String.toList_append, String.toList_append, hypothesis,
      List.flatMap_cons]
    simp only [List.append_assoc]

theorem toList_writeBytes (bits : Nat) : ∃ first more, parts 256 4 bits = first :: more
    ∧ (writeBytes bits).toList
      = digits first ++ more.flatMap (fun byte => '.' :: digits byte) := by
  refine ⟨_, _, rfl, ?_⟩
  unfold writeBytes
  rw [parts, List.map_cons, toList_intercalate, List.flatMap_map, String.toList_ofList]
  simp only [String.toList_ofList]
  rfl

/-- **Four bytes are read back.** -/
theorem readShort?_writeBytes (bits : Nat) (stops : Stops isDigit rest) :
    readShort? ((writeBytes bits).toList ++ rest) = some (bits % 2 ^ 32, rest) := by
  obtain ⟨first, more, split, shape⟩ := toList_writeBytes bits
  have small : ∀ byte ∈ first :: more, byte < 256 :=
    split ▸ fun _ => lt_of_mem_parts (by decide)
  have count : more.length = 3 := by
    have all := length_parts 256 4 bits
    rw [split, List.length_cons] at all
    omega
  have total := foldl_parts 256 4 bits 0
  rw [split, List.foldl_cons, Nat.zero_mul, Nat.zero_add, Nat.zero_mul, Nat.zero_add] at total
  rw [List.forall_mem_cons] at small
  have next : Stops isDigit (more.flatMap (fun byte => '.' :: digits byte) ++ rest) := by
    cases more with
    | nil => exact stops
    | cons other others => exact Text.stops_cons.mpr rfl
  have tail := readMoreBytes?_write small.2 stops first
  rw [count, total] at tail
  unfold readShort?
  rw [shape, List.append_assoc, readByte?_digits small.1 next]
  exact tail

theorem readMoreBytes?_eq_none {chars : List Char} (noPoint : chars.head? ≠ some '.')
    (count number : Nat) : readMoreBytes? (count + 1) number chars = none := by
  unfold readMoreBytes?
  split
  · rename_i starts
    cases starts
  · rename_i starts
    exact absurd rfl noPoint
  · rfl

theorem readByte?_rest {chars : List Char} {byte : Nat} (read : readByte? chars = some (byte, rest)) :
    rest = chars.dropWhile isDigit := by
  have digit : (fun char => (Text.digitValue? char).isSome) = isDigit :=
    funext Text.isSome_digitValue?
  simp only [readByte?, readDigits?, digit, Option.bind_eq_bind] at read
  split at read
  · exact nomatch read
  · rw [Option.bind_some] at read
    simp only at read
    split at read
    · rw [← Text.drop_length_takeWhile]
      simp only [Option.some.injEq, Prod.mk.injEq] at read
      exact read.2.symm
    · exact nomatch read

/-- There are no four bytes where no point follows the first digits. -/
theorem readShort?_eq_none {chars : List Char}
    (noPoint : (chars.dropWhile isDigit).head? ≠ some '.') : readShort? chars = none := by
  unfold readShort?
  cases first : readByte? chars with
  | none => rfl
  | some pair =>
    obtain ⟨byte, rest⟩ := pair
    rw [← readByte?_rest first] at noPoint
    exact readMoreBytes?_eq_none noPoint 2 byte

/-- There are no four bytes in a run without points, unless a point comes next. -/
theorem readShort?_append_eq_none {run : List Char} (plain : '.' ∉ run)
    (stops : Stops isDigit rest) (next : rest.head? ≠ some '.') :
    readShort? (run ++ rest) = none := by
  refine readShort?_eq_none ?_
  rw [List.dropWhile_append]
  split
  · rw [stops.dropWhile_eq]
    exact next
  · rename_i nonempty
    obtain ⟨first, tail, shape⟩ :=
      List.exists_cons_of_ne_nil (fun empty => nonempty (List.isEmpty_iff.mpr empty))
    rw [shape, List.cons_append, List.head?_cons]
    intro point
    refine plain ((List.dropWhile_sublist isDigit).subset ?_)
    rw [shape, Option.some.inj point]
    exact List.mem_cons_self

end Bytes

/-! ### Groups -/

/-- What follows groups: nothing, or a gap. -/
def AtGap (chars : List Char) : Prop := chars = [] ∨ ∃ more, chars = ':' :: ':' :: more

theorem hexValue?_digitChar : ∀ digit < 16, Text.hexValue? digit.digitChar = some digit := by
  decide

/-- The digits of a group. -/
def groupDigits (group : Nat) : List Char := Nat.toDigits 16 group

theorem isSome_of_mem_groupDigits {group : Nat} {char : Char} (member : char ∈ groupDigits group) :
    (Text.hexValue? char).isSome :=
  Text.isSome_of_mem_toDigits (by decide) hexValue?_digitChar member

theorem not_mem_groupDigits {group : Nat} {char : Char} (other : Text.hexValue? char = none) :
    char ∉ groupDigits group := by
  intro member
  have digit := isSome_of_mem_groupDigits member
  rw [other] at digit
  exact absurd digit (by decide)

/-- Groups that each follow a colon. -/
def groupsAfterColons (groups : List Nat) : List Char :=
  groups.flatMap fun group => ':' :: groupDigits group

theorem toList_writeGroups (first : Nat) (more : List Nat) :
    (writeGroups (first :: more)).toList = groupDigits first ++ groupsAfterColons more := by
  unfold writeGroups writeGroup groupsAfterColons groupDigits
  rw [List.map_cons, toList_intercalate, List.flatMap_map, String.toList_ofList]
  simp only [String.toList_ofList]
  rfl

section Groups

variable {rest : List Char}

theorem AtGap.head? (gap : AtGap rest) : rest.head? = none ∨ rest.head? = some ':' := by
  rcases gap with rfl | ⟨more, rfl⟩
  · exact Or.inl rfl
  · exact Or.inr rfl

/-- What follows a group is no digit of it and no point. -/
theorem head?_groupsAfterColons (gap : AtGap rest) (groups : List Nat) :
    (groupsAfterColons groups ++ rest).head? = none
      ∨ (groupsAfterColons groups ++ rest).head? = some ':' := by
  cases groups with
  | nil => exact gap.head?
  | cons group groups => exact Or.inr rfl

theorem stops_of_head? {accept : Char → Bool} {chars : List Char}
    (head : chars.head? = none ∨ chars.head? = some ':') (refused : accept ':' = false) :
    Stops accept chars := by
  intro char first
  rcases head with none | colon
  · rw [none] at first
    exact absurd first (by simp)
  · rw [colon, Option.mem_some_iff] at first
    exact first ▸ refused

/-- One group, where groups after colons or a gap come next. -/
theorem readGroup?_digits {group : Nat} (small : group < 65536) {chars : List Char}
    (head : chars.head? = none ∨ chars.head? = some ':') :
    readGroup? (groupDigits group ++ chars) = some (group, chars) := by
  unfold readGroup? groupDigits
  rw [readDigits?_toDigits (by decide) (by decide) hexValue?_digitChar
    (by omega : group < 16 ^ 4) (stops_of_head? head rfl)]
  rfl

theorem readShort?_groupDigits (group : Nat) {chars : List Char}
    (head : chars.head? = none ∨ chars.head? = some ':') :
    readShort? (groupDigits group ++ chars) = none := by
  refine readShort?_append_eq_none (not_mem_groupDigits (by decide)) (stops_of_head? head rfl) ?_
  rcases head with none | colon
  · simp [none]
  · simp [colon]

/-- No bytes are read where groups are, or a gap. -/
theorem readShort?_writeGroups (gap : AtGap rest) (groups : List Nat) :
    readShort? ((writeGroups groups).toList ++ rest) = none := by
  cases groups with
  | nil => rcases gap with rfl | ⟨more, rfl⟩ <;> rfl
  | cons group groups =>
    rw [toList_writeGroups, List.append_assoc]
    exact readShort?_groupDigits group (head?_groupsAfterColons gap groups)

/-- A group is read where it comes next and no bytes do. -/
theorem readGroups_cons (first : Bool) {chars tail more : List Char} {group : Nat}
    (start : afterColon? first chars = some tail) (noBytes : readShort? tail = none)
    (read : readGroup? tail = some (group, more)) (room : Nat) :
    readGroups first (room + 1) chars
      = (group :: (readGroups false room more).1, (readGroups false room more).2) := by
  rw [readGroups, start]
  simp only [Option.bind_eq_bind, Option.bind_some, noBytes, read, ite_self]

/-- Nothing is read at a gap. -/
theorem readGroups_gap (gap : AtGap rest) (first : Bool) (room : Nat) :
    readGroups first room rest = ([], false, rest) := by
  cases room with
  | zero => rfl
  | succ room =>
    rcases gap with rfl | ⟨more, rfl⟩
    · cases first <;> cases room <;> rfl
    · cases first <;> cases room <;> rfl

/-- Groups after colons, as many as there is room for. -/
theorem readGroups_afterColons (gap : AtGap rest) {groups : List Nat}
    (small : ∀ group ∈ groups, group < 65536) {room : Nat} (fits : groups.length ≤ room) :
    readGroups false room (groupsAfterColons groups ++ rest) = (groups, false, rest) := by
  induction groups generalizing room with
  | nil => exact readGroups_gap gap false room
  | cons group groups hypothesis =>
    rw [List.forall_mem_cons] at small
    rw [List.length_cons] at fits
    obtain ⟨room, rfl⟩ := Nat.exists_eq_succ_of_ne_zero (Nat.ne_zero_of_lt fits)
    have head := head?_groupsAfterColons gap groups
    have start : afterColon? false (groupsAfterColons (group :: groups) ++ rest)
        = some (groupDigits group ++ (groupsAfterColons groups ++ rest)) := by
      simp [groupsAfterColons, afterColon?]
    rw [readGroups_cons false start (readShort?_groupDigits group head)
      (readGroup?_digits small.1 head), hypothesis small.2 (Nat.le_of_succ_le_succ fits)]

/-- **Groups before a gap or the end are read back.** -/
theorem readGroups_writeGroups (gap : AtGap rest) {groups : List Nat}
    (small : ∀ group ∈ groups, group < 65536) {room : Nat} (fits : groups.length ≤ room) :
    readGroups true room ((writeGroups groups).toList ++ rest) = (groups, false, rest) := by
  cases groups with
  | nil => exact readGroups_gap gap true room
  | cons group groups =>
    rw [List.forall_mem_cons] at small
    rw [List.length_cons] at fits
    obtain ⟨room, rfl⟩ := Nat.exists_eq_succ_of_ne_zero (Nat.ne_zero_of_lt fits)
    have head := head?_groupsAfterColons gap groups
    rw [toList_writeGroups, List.append_assoc, readGroups_cons true rfl
      (readShort?_groupDigits group head) (readGroup?_digits small.1 head),
      readGroups_afterColons gap small.2 (Nat.le_of_succ_le_succ fits)]

end Groups

/-! ### Gaps -/

theorem takeWhile_zeros (groups : List Nat) :
    groups.takeWhile (· == 0) = List.replicate (leadingZeros groups) 0 := by
  refine List.eq_replicate_of_mem fun group member => ?_
  have zero := List.mem_takeWhile_imp member
  exact beq_iff_eq.mp zero

/-- The run of zeros that is left out, between what comes before and after it. -/
theorem longestZeros_spec (start : Nat) (groups : List Nat) : ∃ before after,
    groups = before ++ (List.replicate (longestZeros start groups).2 0 ++ after)
      ∧ (longestZeros start groups).1 = start + before.length := by
  induction groups generalizing start with
  | nil => exact ⟨[], [], rfl, rfl⟩
  | cons group groups hypothesis =>
    unfold longestZeros
    simp only
    split
    · refine ⟨[], (group :: groups).dropWhile (· == 0), ?_, rfl⟩
      rw [← takeWhile_zeros, List.nil_append, List.takeWhile_append_dropWhile]
    · obtain ⟨before, after, parts, place⟩ := hypothesis (start + 1)
      refine ⟨group :: before, after, congrArg (group :: ·) parts, ?_⟩
      rw [place, List.length_cons]
      omega

/-! ### Addresses -/

theorem ofGroups_parts (bits : BitVec 128) : ofGroups (parts 65536 8 bits.toNat) = bits := by
  have total : (parts 65536 8 bits.toNat).foldl (fun total part => total * 65536 + part) 0
      = bits.toNat := by
    rw [foldl_parts, Nat.zero_mul, Nat.zero_add]
    exact Nat.mod_eq_of_lt bits.isLt
  unfold ofGroups
  rw [total, BitVec.ofNat_toNat, BitVec.setWidth_eq]

/-- Groups with a gap for zeros are read back with the zeros in it. -/
theorem readLong?_gap {before after : List Nat} (smallBefore : ∀ group ∈ before, group < 65536)
    (smallAfter : ∀ group ∈ after, group < 65536) {length : Nat} (long : 1 < length)
    (total : before.length + length + after.length = 8) :
    readLong? ((writeGroups before).toList ++ ':' :: ':' :: (writeGroups after).toList)
      = some (ofGroups (before ++ List.replicate length 0 ++ after), []) := by
  have head := readGroups_writeGroups (Or.inr ⟨(writeGroups after).toList, rfl⟩) smallBefore
    (by omega : before.length ≤ 8)
  have tail := readGroups_writeGroups (Or.inl rfl) smallAfter
    (by omega : after.length ≤ 7 - before.length)
  have missing : 8 - before.length - after.length = length := by omega
  rw [List.append_nil] at tail
  unfold readLong?
  rw [head]
  simp only [tail, missing, if_neg (by omega : ¬before.length = 8), Bool.false_eq_true, if_false]

/-- Four bytes after a gap and a group of ones are read back as the last two groups. -/
theorem readLong?_mapped (bits : Nat) :
    readLong? (':' :: ':' :: (groupDigits 0xffff ++ ':' :: (writeBytes bits).toList))
      = some (ofGroups [0, 0, 0, 0, 0, 0xffff, bits % 2 ^ 32 / 65536, bits % 2 ^ 32 % 65536], [])
      := by
  have head := readGroups_gap (Or.inr ⟨groupDigits 0xffff ++ ':' :: (writeBytes bits).toList, rfl⟩)
    true 8
  have bytes := readShort?_writeBytes bits Text.stops_nil
  rw [List.append_nil] at bytes
  have last : readGroups false 6 (':' :: (writeBytes bits).toList)
      = ([bits % 2 ^ 32 / 65536, bits % 2 ^ 32 % 65536], true, []) := by
    have colon : afterColon? false (':' :: (writeBytes bits).toList)
        = some (writeBytes bits).toList := rfl
    rw [readGroups, colon]
    simp only [Option.bind_eq_bind, Option.bind_some, bytes, OfNat.ofNat_ne_zero, if_false]
  have colon : (':' :: (writeBytes bits).toList).head? = none
      ∨ (':' :: (writeBytes bits).toList).head? = some ':' := Or.inr rfl
  have tail := readGroups_cons true rfl (readShort?_groupDigits 0xffff colon)
    (readGroup?_digits (by decide) colon) 6
  unfold readLong?
  rw [head]
  simp only [List.length_nil, Nat.sub_zero, tail, last]
  rfl

theorem toList_writeLong (bits : Nat) : (writeLong bits).toList =
    if (parts 65536 8 bits).take 6 = [0, 0, 0, 0, 0, 0xffff] then
      ':' :: ':' :: (groupDigits 0xffff ++ ':' :: (writeBytes bits).toList)
    else if 1 < (longestZeros 0 (parts 65536 8 bits)).2 then
      (writeGroups ((parts 65536 8 bits).take (longestZeros 0 (parts 65536 8 bits)).1)).toList
        ++ ':' :: ':' :: (writeGroups ((parts 65536 8 bits).drop
          ((longestZeros 0 (parts 65536 8 bits)).1 + (longestZeros 0 (parts 65536 8 bits)).2))).toList
    else (writeGroups (parts 65536 8 bits)).toList := by
  unfold writeLong
  simp only
  split
  · rw [String.toList_append]
    rfl
  · split
    · simp
    · rfl

theorem readLong?_writeLong (bits : BitVec 128) :
    readLong? (writeLong bits.toNat).toList = some (bits, []) := by
  have small : ∀ group ∈ parts 65536 8 bits.toNat, group < 65536 :=
    fun _ => lt_of_mem_parts (by decide)
  have whole := ofGroups_parts bits
  have eight := length_parts 65536 8 bits.toNat
  rw [toList_writeLong]
  split
  · rename_i mapped
    have last : parts 65536 8 bits.toNat = (parts 65536 8 bits.toNat).take 6
        ++ [bits.toNat % 2 ^ 32 / 65536, bits.toNat % 2 ^ 32 % 65536] := by
      have high : bits.toNat % 2 ^ 32 / 65536 = bits.toNat / 65536 % 65536 := by omega
      have low : bits.toNat % 2 ^ 32 % 65536 = bits.toNat % 65536 := by omega
      rw [high, low]
      simp [parts]
    rw [mapped] at last
    rw [readLong?_mapped]
    exact congrArg (fun groups => some (groups, [])) ((congrArg ofGroups last.symm).trans whole)
  · split
    · rename_i long
      obtain ⟨before, after, shape, place⟩ := longestZeros_spec 0 (parts 65536 8 bits.toNat)
      generalize longestZeros 0 (parts 65536 8 bits.toNat) = zeros at long shape place
      obtain ⟨start, length⟩ := zeros
      simp only [Nat.zero_add] at long shape place ⊢
      have first : (parts 65536 8 bits.toNat).take start = before := by
        rw [shape, place, List.take_left]
      have second : (parts 65536 8 bits.toNat).drop (start + length) = after := by
        rw [shape, place, ← List.append_assoc]
        exact List.drop_left' (by simp)
      have total := congrArg List.length shape
      rw [eight, List.length_append, List.length_append, List.length_replicate] at total
      rw [shape] at small
      rw [first, second, readLong?_gap (fun _ member => small _ (by simp [member]))
        (fun _ member => small _ (by simp [member])) long (by omega), List.append_assoc, ← shape,
        whole]
    · have groups := readGroups_writeGroups (Or.inl rfl) small (Nat.le_of_eq eight)
      rw [List.append_nil] at groups
      unfold readLong?
      rw [groups]
      simp only [eight, if_true, whole]

theorem readShort?_writeLong (bits : Nat) : readShort? (writeLong bits).toList = none := by
  rw [toList_writeLong]
  split
  · exact readShort?_eq_none (by simp [isDigit])
  · split
    · exact readShort?_writeGroups (Or.inr ⟨_, rfl⟩) _
    · have read := readShort?_writeGroups (Or.inl rfl) (parts 65536 8 bits)
      rwa [List.append_nil] at read

/-- **An address is read back from its text.** -/
theorem read?_write (address : Address) : read? address.write = some address := by
  cases address with
  | short bits =>
    have read := readShort?_writeBytes bits.toNat Text.stops_nil
    rw [List.append_nil, Nat.mod_eq_of_lt bits.isLt] at read
    unfold read? write
    simp only [read, BitVec.ofNat_toNat, BitVec.setWidth_eq]
  | long bits =>
    unfold read? write
    simp only [readShort?_writeLong, readLong?_writeLong]

end Paydesk.Address
