/-
**Documents read back.**

A document without doubles, whose whole numbers fit 64 bits, is read back from its text as it was.
A double is read as whatever number its shortest text stands for.

* `readText?_escape`: a text in quotes, character by character;
* `Plain`, `Legible`: documents without doubles, and with doubles whose text is a number;
* `reread`: the document with each double as it is read;
* `Readable`: a value is read back whatever follows it, on a budget of twice its length;
* `readItems?_write`, `readFields?_write`: lists and objects of readable values;
* `read?_write_of_legible`: **every legible document is read from its text, double by double**;
* `read?_write`: **every plain document is read back from its text**.
-/

import Paydesk.Json.Writer
import Paydesk.Proofs.Json.Number

namespace Paydesk.Json

open Text (Stops digits)

/-! ### Texts -/

theorem hexValue?_hexDigit : ∀ value < 16, Text.hexValue? (Text.hexDigit value) = some value := by
  decide

/-- A control character written as a code unit. -/
theorem readEscape?_unit {char : Char} (control : char.toNat < 0x20) (rest : List Char) :
    readEscape? ('u' :: '0' :: '0' :: Text.hexDigit (char.toNat / 16)
      :: Text.hexDigit (char.toNat % 16) :: rest) = some (char, rest) := by
  have unit : readUnit? ('0' :: '0' :: Text.hexDigit (char.toNat / 16)
      :: Text.hexDigit (char.toNat % 16) :: rest) = some (char.toNat, rest) := by
    have zero : Text.hexValue? '0' = some 0 := rfl
    have sum : ((0 * 16 + 0) * 16 + char.toNat / 16) * 16 + char.toNat % 16 = char.toNat := by omega
    simp only [readUnit?, zero, hexValue?_hexDigit (char.toNat / 16) (by omega),
      hexValue?_hexDigit (char.toNat % 16) (by omega), Option.pure_def, Option.bind_eq_bind,
      Option.bind_some, sum]
  have code : charOf? char.toNat = some char := by
    have valid : char.toNat.isValidChar := char.valid
    rw [charOf?, if_pos valid, Char.ofNat_toNat]
  have single : ¬(0xD800 ≤ char.toNat ∧ char.toNat < 0xDC00) := by omega
  simp only [readEscape?, readEscapedUnits?, unit, code, if_neg single, Option.pure_def,
    Option.bind_eq_bind, Option.bind_some]

/-- One character of a text in quotes. -/
theorem readText?_escape_append (budget : Nat) (done : List Char) (char : Char)
    (rest : List Char) :
    readText? (budget + 1) done (escape char ++ rest) = readText? budget (char :: done) rest := by
  unfold escape
  split
  case h_8 quote backslash _ _ _ _ _ =>
    split
    · rename_i control
      have read := readEscape?_unit control rest
      simp only [List.cons_append, List.nil_append, readText?, read, Option.bind_eq_bind,
        Option.bind_some]
    · rename_i printable
      rw [List.singleton_append, readText?]
      · exact if_neg printable
      · intro quoted
        exact quote quoted
      · intro escaped
        exact backslash escaped
  all_goals rfl

/-- A text in quotes is read back, on a budget of more than its characters. -/
theorem readText?_escape (chars done rest : List Char) {budget : Nat}
    (room : chars.length < budget) :
    readText? budget done (chars.flatMap escape ++ '"' :: rest)
      = some (String.ofList (done.reverse ++ chars), rest) := by
  induction chars generalizing budget done with
  | nil =>
    obtain ⟨budget, rfl⟩ := Nat.exists_eq_succ_of_ne_zero (Nat.ne_of_gt room)
    simp [readText?]
  | cons char chars hypothesis =>
    obtain ⟨budget, rfl⟩ := Nat.exists_eq_succ_of_ne_zero (Nat.ne_zero_of_lt room)
    rw [List.flatMap_cons, List.append_assoc, readText?_escape_append,
      hypothesis (char :: done) (Nat.lt_of_succ_lt_succ room)]
    simp

theorem length_le_flatMap_escape (chars : List Char) :
    chars.length ≤ (chars.flatMap escape).length := by
  induction chars with
  | nil => exact Nat.le_refl _
  | cons char chars hypothesis =>
    have positive : 0 < (escape char).length := by
      unfold escape
      split
      case h_8 => split <;> exact Nat.succ_pos _
      all_goals exact Nat.succ_pos _
    rw [List.flatMap_cons, List.length_append, List.length_cons]
    omega

theorem toList_writeText (text : String) (rest : List Char) :
    (writeText text).toList ++ rest = '"' :: (text.toList.flatMap escape ++ '"' :: rest) := by
  simp [writeText]

/-- A written text after its opening quote, on the budget that readers give it. -/
theorem readText?_write (text : String) (rest : List Char) :
    readText? ((text.toList.flatMap escape ++ '"' :: rest).length + 1) []
      (text.toList.flatMap escape ++ '"' :: rest) = some (text, rest) := by
  have short := length_le_flatMap_escape text.toList
  have room : text.toList.length < (text.toList.flatMap escape ++ '"' :: rest).length + 1 := by
    rw [List.length_append]
    omega
  rw [readText?_escape _ _ _ room, List.reverse_nil, List.nil_append, String.ofList_toList]

/-! ### Documents -/

/-- A document without doubles, whose whole numbers fit 64 bits. -/
inductive Plain : Json → Prop where
  | null : Plain .null
  | bool (flag : Bool) : Plain (.bool flag)
  | int {number : Int} (fits : FitsDocument number) : Plain (.int number)
  | text (content : String) : Plain (.text content)
  | list {items : List Json} (parts : ∀ item ∈ items, Plain item) : Plain (.list items)
  | object {fields : List (String × Json)} (parts : ∀ field ∈ fields, Plain field.2) :
    Plain (.object fields)

/-- What the text of a double is read as. -/
def readBack? (number : Binary64) : Option Json :=
  (readNumber? number.writeShort.toList).bind fun (json, rest) =>
    if rest.isEmpty then some json else none

theorem readNumber?_of_readBack? {number : Binary64} {json : Json}
    (read : readBack? number = some json) :
    readNumber? number.writeShort.toList = some (json, []) := by
  obtain ⟨⟨found, rest⟩, number_read, whole⟩ := Option.bind_eq_some_iff.mp read
  simp only at whole
  split at whole
  · rename_i empty
    cases whole
    rw [number_read, List.isEmpty_iff.mp empty]
  · nomatch whole

mutual

/-- A document as it is read: a double is what its text stands for. -/
def reread : Json → Json
  | .float number => (readBack? number).getD (.float number)
  | .list items => .list (rereadItems items)
  | .object fields => .object (rereadFields fields)
  | other => other

/-- The items of a list as they are read. -/
def rereadItems : List Json → List Json
  | [] => []
  | item :: rest => item.reread :: rereadItems rest

/-- The fields of an object as they are read. -/
def rereadFields : List (String × Json) → List (String × Json)
  | [] => []
  | (name, value) :: rest => (name, value.reread) :: rereadFields rest

end

theorem rereadItems_eq (items : List Json) : rereadItems items = items.map reread := by
  induction items with
  | nil => rfl
  | cons item items hypothesis => rw [rereadItems, hypothesis, List.map_cons]

theorem rereadFields_eq (fields : List (String × Json)) :
    rereadFields fields = fields.map fun field => (field.1, field.2.reread) := by
  induction fields with
  | nil => rfl
  | cons field fields hypothesis => rw [rereadFields, hypothesis, List.map_cons]

/-- A document whose doubles are written as numbers. -/
inductive Legible : Json → Prop where
  | plain {json : Json} (plain : Plain json) : Legible json
  | float {number : Binary64} (read : (readBack? number).isSome) : Legible (.float number)
  | list {items : List Json} (parts : ∀ item ∈ items, Legible item) : Legible (.list items)
  | object {fields : List (String × Json)} (parts : ∀ field ∈ fields, Legible field.2) :
    Legible (.object fields)

/-- A plain document is read as it is. -/
theorem Plain.reread_eq {json : Json} (plain : Plain json) : json.reread = json := by
  induction plain with
  | list parts hypothesis =>
    rw [reread, rereadItems_eq, List.map_congr_left hypothesis, List.map_id']
  | object parts hypothesis =>
    rw [reread, rereadFields_eq]
    refine congrArg Json.object ((List.map_congr_left fun field member => ?_).trans (List.map_id' _))
    rw [hypothesis field member]
  | null | bool | int | text => rfl

/-- A value that is read back before anything that does not go on with a number. -/
def Readable (json : Json) : Prop :=
  ∀ (budget : Nat) (rest : List Char), 2 * json.write.toList.length < budget →
    Stops isNumeral rest → readValue? budget (json.write.toList ++ rest) = some (json.reread, rest)

theorem skipSpace_of_numeral {first : Char} (start : Text.isDigit first ∨ first = '-')
    (rest : List Char) : skipSpace (first :: rest) = first :: rest := by
  refine List.dropWhile_cons_of_neg fun space => ?_
  simp only [Bool.or_eq_true, beq_iff_eq] at space
  rcases space with ((rfl | rfl) | rfl) | rfl <;> exact absurd start (by decide)

/-- The text of a document starts with neither white space nor a closing bracket. -/
theorem Plain.write_head {json : Json} (plain : Plain json) : ∃ first tail,
    json.write.toList = first :: tail ∧ (∀ rest, skipSpace (first :: rest) = first :: rest)
      ∧ first ≠ ']' := by
  cases plain with
  | null => exact ⟨'n', _, rfl, fun _ => rfl, by decide⟩
  | bool flag =>
    cases flag
    · exact ⟨'f', _, rfl, fun _ => rfl, by decide⟩
    · exact ⟨'t', _, rfl, fun _ => rfl, by decide⟩
  | @int number fits =>
    obtain ⟨first, tail, shape, start⟩ := writeInt_head number
    refine ⟨first, tail, by rw [write, shape], skipSpace_of_numeral start, ?_⟩
    rintro rfl
    exact absurd start (by decide)
  | text content =>
    have shape := toList_writeText content []
    rw [List.append_nil] at shape
    exact ⟨'"', _, shape, fun _ => rfl, by decide⟩
  | list parts => exact ⟨'[', _, by rw [write]; simp; rfl, fun _ => rfl, by decide⟩
  | object parts => exact ⟨'\x7b', _, by rw [write]; simp; rfl, fun _ => rfl, by decide⟩

theorem Legible.write_head {json : Json} (legible : Legible json) : ∃ first tail,
    json.write.toList = first :: tail ∧ (∀ rest, skipSpace (first :: rest) = first :: rest)
      ∧ first ≠ ']' := by
  cases legible with
  | plain plain => exact plain.write_head
  | @float number read =>
    obtain ⟨json, found⟩ := Option.isSome_iff_exists.mp read
    obtain ⟨first, tail, shape, start⟩ := readNumber?_head (readNumber?_of_readBack? found)
    refine ⟨first, tail, by rw [write, shape], skipSpace_of_numeral start, ?_⟩
    rintro rfl
    exact absurd start (by decide)
  | list parts => exact ⟨'[', _, by rw [write]; simp; rfl, fun _ => rfl, by decide⟩
  | object parts => exact ⟨'\x7b', _, by rw [write]; simp; rfl, fun _ => rfl, by decide⟩

/-! ### Lists and objects -/

theorem toList_intercalate_cons (text next : String) (more : List String) :
    (",".intercalate (text :: next :: more)).toList
      = text.toList ++ ',' :: (",".intercalate (next :: more)).toList := by
  simp [String.intercalate_cons_cons]

theorem toList_intercalate_head {text : String} {first : Char} {tail : List Char}
    (shape : text.toList = first :: tail) (more : List String) :
    ∃ others, (",".intercalate (text :: more)).toList = first :: others := by
  cases more with
  | nil => exact ⟨tail, by rw [String.intercalate_singleton, shape]⟩
  | cons next more => exact ⟨_, by rw [toList_intercalate_cons, shape, List.cons_append]⟩

section Steps

variable {budget : Nat} {chars valued more tail : List Char} {item : Json} {items : List Json}
  {fields : List (String × Json)}

theorem readItems?_last (read : readValue? budget chars = some (item, ']' :: tail)) :
    readItems? (budget + 1) chars = some ([item], tail) := by
  simp [readItems?, read, skipSpace]

theorem readItems?_more (read : readValue? budget chars = some (item, ',' :: more))
    (others : readItems? budget more = some (items, tail)) :
    readItems? (budget + 1) chars = some (item :: items, tail) := by
  simp [readItems?, read, others, skipSpace]

theorem readFields?_last (name : String)
    (read : readValue? budget valued = some (item, '\x7d' :: tail)) :
    readFields? (budget + 1) ((writeText name).toList ++ ':' :: valued)
      = some ([(name, item)], tail) := by
  have named := readText?_write name (':' :: valued)
  rw [toList_writeText]
  generalize name.toList.flatMap escape ++ '"' :: ':' :: valued = quoted at named ⊢
  simp [readFields?, named, read, skipSpace]

theorem readFields?_more (name : String)
    (read : readValue? budget valued = some (item, ',' :: more))
    (others : readFields? budget more = some (fields, tail)) :
    readFields? (budget + 1) ((writeText name).toList ++ ':' :: valued)
      = some ((name, item) :: fields, tail) := by
  have named := readText?_write name (':' :: valued)
  rw [toList_writeText]
  generalize name.toList.flatMap escape ++ '"' :: ':' :: valued = quoted at named ⊢
  simp [readFields?, named, read, others, skipSpace]

end Steps

/-- The items of a list up to its closing bracket. -/
theorem readItems?_write {items : List Json} (readable : ∀ item ∈ items, Readable item)
    (nonempty : items ≠ []) (rest : List Char) (budget : Nat)
    (room : 2 * (",".intercalate (writeItems items)).toList.length + 1 < budget) :
    readItems? budget ((",".intercalate (writeItems items)).toList ++ ']' :: rest)
      = some (rereadItems items, rest) := by
  induction items generalizing budget with
  | nil => exact absurd rfl nonempty
  | cons item items hypothesis =>
    obtain ⟨budget, rfl⟩ := Nat.exists_eq_succ_of_ne_zero (Nat.ne_zero_of_lt room)
    rw [List.forall_mem_cons] at readable
    cases items with
    | nil =>
      rw [writeItems, writeItems, String.intercalate_singleton] at room ⊢
      exact readItems?_last (readable.1 budget (']' :: rest) (by omega) (by simp; decide))
    | cons next items =>
      rw [writeItems, writeItems, toList_intercalate_cons, ← writeItems] at room ⊢
      rw [List.length_append, List.length_cons] at room
      rw [List.append_assoc, List.cons_append]
      have others := hypothesis readable.2 (by simp) budget (by omega)
      exact readItems?_more (readable.1 budget _ (by omega) (by simp; decide)) others

/-- The fields of an object up to its closing brace. -/
theorem readFields?_write {fields : List (String × Json)}
    (readable : ∀ field ∈ fields, Readable field.2) (nonempty : fields ≠ []) (rest : List Char)
    (budget : Nat) (room : 2 * (",".intercalate (writeFields fields)).toList.length + 1 < budget) :
    readFields? budget ((",".intercalate (writeFields fields)).toList ++ '\x7d' :: rest)
      = some (rereadFields fields, rest) := by
  induction fields generalizing budget with
  | nil => exact absurd rfl nonempty
  | cons field fields hypothesis =>
    obtain ⟨budget, rfl⟩ := Nat.exists_eq_succ_of_ne_zero (Nat.ne_zero_of_lt room)
    obtain ⟨name, value⟩ := field
    rw [List.forall_mem_cons] at readable
    obtain ⟨(first : Readable value), readable⟩ := readable
    cases fields with
    | nil =>
      rw [writeFields, writeFields, String.intercalate_singleton] at room ⊢
      simp only [String.toList_append, List.length_append] at room
      have read := first budget ('\x7d' :: rest) (by omega) (by simp; decide)
      simpa [List.append_assoc, rereadFields] using readFields?_last name read
    | cons next fields =>
      obtain ⟨nextName, nextValue⟩ := next
      rw [writeFields, writeFields, toList_intercalate_cons, ← writeFields] at room ⊢
      simp only [String.toList_append, List.length_append, List.length_cons] at room
      have others := hypothesis readable (by simp) budget (by omega)
      have read := first budget (',' :: ((",".intercalate
        (writeFields ((nextName, nextValue) :: fields))).toList ++ '\x7d' :: rest))
        (by omega) (by simp; decide)
      rw [rereadFields]
      simpa [List.append_assoc] using readFields?_more name read others

/-! ### Values -/

section Starts

variable {budget : Nat} {first : Char} {more tail : List Char}

theorem readValue?_list {items : List Json} (kept : skipSpace (first :: more) = first :: more)
    (inside : first ≠ ']') (read : readItems? budget (first :: more) = some (items, tail)) :
    readValue? (budget + 1) ('[' :: first :: more) = some (.list items, tail) := by
  have opened : skipSpace ('[' :: first :: more) = '[' :: first :: more := rfl
  simp [readValue?, opened, kept, inside, read]

theorem readValue?_object {fields : List (String × Json)}
    (read : readFields? budget ('"' :: more) = some (fields, tail)) :
    readValue? (budget + 1) ('\x7b' :: '"' :: more) = some (.object fields, tail) := by
  have opened : skipSpace ('\x7b' :: '"' :: more) = '\x7b' :: '"' :: more := rfl
  have quoted : skipSpace ('"' :: more) = '"' :: more := rfl
  simp [readValue?, opened, quoted, read]

theorem readValue?_number (start : Text.isDigit first ∨ first = '-') :
    readValue? (budget + 1) (first :: more) = readNumber? (first :: more) := by
  rw [readValue?, skipSpace_of_numeral start]
  split
  case h_7 => rfl
  all_goals
    rename_i starts
    rw [(List.cons.inj starts).1] at start
    exact absurd start (by decide)

end Starts

theorem readable_list {items : List Json} (legible : ∀ item ∈ items, Legible item)
    (readable : ∀ item ∈ items, Readable item) : Readable (.list items) := by
  intro budget rest room _
  obtain ⟨budget, rfl⟩ := Nat.exists_eq_succ_of_ne_zero (Nat.ne_zero_of_lt room)
  cases items with
  | nil => rfl
  | cons item items =>
    obtain ⟨first, tail, shape, kept, inside⟩ := (legible item List.mem_cons_self).write_head
    obtain ⟨others, text⟩ := toList_intercalate_head shape (writeItems items)
    have whole : (Json.list (item :: items)).write.toList = '[' :: (first :: others ++ [']']) := by
      simp only [write, String.toList_append, writeItems, text]
      rfl
    rw [whole] at room ⊢
    simp only [List.length_cons, List.length_append] at room
    have read := readItems?_write readable (by simp) rest budget (by
      rw [writeItems, text, List.length_cons]
      omega)
    rw [writeItems, text] at read
    simp only [List.cons_append, List.append_assoc, List.nil_append] at read ⊢
    exact readValue?_list (kept _) inside read

theorem readable_object {fields : List (String × Json)}
    (readable : ∀ field ∈ fields, Readable field.2) : Readable (.object fields) := by
  intro budget rest room _
  obtain ⟨budget, rfl⟩ := Nat.exists_eq_succ_of_ne_zero (Nat.ne_zero_of_lt room)
  cases fields with
  | nil => rfl
  | cons field fields =>
    obtain ⟨name, value⟩ := field
    have quoted : (writeText name ++ ":" ++ value.write).toList
        = '"' :: (name.toList.flatMap escape ++ '"' :: ':' :: value.write.toList) := by
      rw [String.append_assoc, String.toList_append, toList_writeText]
      simp
    obtain ⟨others, text⟩ := toList_intercalate_head quoted (writeFields fields)
    have whole : (Json.object ((name, value) :: fields)).write.toList
        = '\x7b' :: ('"' :: others ++ ['\x7d']) := by
      simp only [write, String.toList_append, writeFields, text]
      rfl
    rw [whole] at room ⊢
    simp only [List.length_cons, List.length_append] at room
    have read := readFields?_write readable (by simp) rest budget (by
      rw [writeFields, text, List.length_cons]
      omega)
    rw [writeFields, text] at read
    simp only [List.cons_append, List.append_assoc, List.nil_append] at read ⊢
    exact readValue?_object read

/-- A plain document is read back before anything that does not go on with a number. -/
theorem Plain.readable {json : Json} (plain : Plain json) : Readable json := by
  induction plain with
  | null =>
    intro budget rest room _
    obtain ⟨budget, rfl⟩ := Nat.exists_eq_succ_of_ne_zero (Nat.ne_zero_of_lt room)
    rfl
  | bool flag =>
    intro budget rest room _
    obtain ⟨budget, rfl⟩ := Nat.exists_eq_succ_of_ne_zero (Nat.ne_zero_of_lt room)
    cases flag <;> rfl
  | @int number fits =>
    intro budget rest room stops
    obtain ⟨budget, rfl⟩ := Nat.exists_eq_succ_of_ne_zero (Nat.ne_zero_of_lt room)
    obtain ⟨first, tail, shape, start⟩ := writeInt_head number
    have read := readNumber?_writeInt fits stops
    rw [shape, List.cons_append] at read
    rw [write, shape, List.cons_append, readValue?_number start, read]
    rfl
  | text content =>
    intro budget rest room _
    obtain ⟨budget, rfl⟩ := Nat.exists_eq_succ_of_ne_zero (Nat.ne_zero_of_lt room)
    have read := readText?_write content rest
    rw [write, toList_writeText]
    generalize content.toList.flatMap escape ++ '"' :: rest = quoted at read ⊢
    simp [readValue?, skipSpace, read, reread]
  | list parts hypothesis =>
    exact readable_list (fun item member => .plain (parts item member)) hypothesis
  | object parts hypothesis => exact readable_object hypothesis

/-- A double whose text is a number is read as that number. -/
theorem readable_float {number : Binary64} (read : (readBack? number).isSome) :
    Readable (.float number) := by
  intro budget rest room stops
  obtain ⟨budget, rfl⟩ := Nat.exists_eq_succ_of_ne_zero (Nat.ne_zero_of_lt room)
  obtain ⟨json, found⟩ := Option.isSome_iff_exists.mp read
  have number_read := readNumber?_of_readBack? found
  obtain ⟨first, tail, shape, start⟩ := readNumber?_head number_read
  have before_rest := readNumber?_append stops number_read
  rw [shape, List.cons_append] at before_rest
  rw [write, shape, List.cons_append, readValue?_number start, before_rest, reread, found]
  rfl

/-- **A legible document is read back before anything that does not go on with a number.** -/
theorem Legible.readable {json : Json} (legible : Legible json) : Readable json := by
  induction legible with
  | plain plain => exact plain.readable
  | float read => exact readable_float read
  | list parts hypothesis => exact readable_list parts hypothesis
  | object parts hypothesis => exact readable_object hypothesis

/-- **Every legible document is read from its text, double by double.** -/
theorem read?_write_of_legible {json : Json} (legible : Legible json) :
    read? json.write = some json.reread := by
  have value := legible.readable (2 * json.write.toList.length + 2) [] (by omega) Text.stops_nil
  rw [List.append_nil] at value
  unfold read?
  simp only [value, Option.bind_eq_bind, Option.bind_some]
  rfl

/-- **Every plain document is read back from its text.** -/
theorem read?_write {json : Json} (plain : Plain json) : read? json.write = some json := by
  rw [read?_write_of_legible (.plain plain), plain.reread_eq]

end Paydesk.Json
