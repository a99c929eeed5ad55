/-
**Records read back.**

A record is written field by field in the order in which its reader asks for its parts.

* `field?_of_mem`: a field of an object whose names are distinct;
* `Recovers`: a reader of parts that finds a value in the fields that are left;
* `Recovers.next`, `Recovers.absent`: one part, written or left out;
* `readRecord?_object`: **a record whose parts are recovered one after another**;
* `Recovers.optionalField`: a part that is written only where it has a value;
* `readDict?_write`: **a map is read back, whatever the order of its fields**;
* `size_of_readTextDict?`: a map has an entry for each name of the object that it is read of;
* `Requires`, `isSome_of_readRecord?`: **no record is read with a part that is not**;
* `isSome_of_readTextDict?`: no map is read with an entry that is not.
-/

import Mathlib.Data.List.Nodup
import Paydesk.Json.Record
import Paydesk.Proofs.Dict

namespace Paydesk.Json

/-! ### Parts of records -/

section Fields

variable {object : List (String × Json)} {name : String}

/-- A field of an object whose names are distinct. -/
theorem field?_of_mem (distinct : (object.map (·.1)).Nodup) {json : Json}
    (member : (name, json) ∈ object) : (Json.object object).field? name = some json := by
  unfold field?
  simp only
  cases found : object.reverse.find? (·.1 == name) with
  | none =>
    rw [List.find?_eq_none] at found
    exact absurd BEq.rfl (found (name, json) (List.mem_reverse.mpr member))
  | some field =>
    have inside := List.mem_reverse.mp (List.mem_of_find?_eq_some found)
    have named : field.1 = name := by simpa using List.find?_some found
    rw [List.inj_on_of_nodup_map distinct inside member named]
    rfl

theorem field?_of_not_mem (absent : name ∉ object.map (·.1)) :
    (Json.object object).field? name = none := by
  simp only [field?, Option.map_eq_none_iff, List.find?_eq_none, List.mem_reverse]
  intro field member same
  exact absent (beq_iff_eq.mp same ▸ List.mem_map_of_mem member)

end Fields

section Records

variable {α β : Type} {object rest : List (String × Json)}

/-- A reader finds a value in the fields that are left of an object with distinct names. -/
def Recovers (object rest : List (String × Json)) (reader : RecordReader α) (value : α) : Prop :=
  (object.map (·.1)).Nodup → rest <:+ object →
    reader (.named (.object object)) = some (value, .named (.object object))

/-- Nothing is left to be read. -/
theorem Recovers.done (value : α) : Recovers object rest (pure value) value := fun _ _ => rfl

section Next

variable {missing : Option α} {short : Bool} {name : String} {read : Json → Option α} {json : Json}
  {value : α} {later : α → RecordReader β} {result : β}

/-- A part that is written next. -/
theorem Recovers.next (found : read json = some value)
    (recovers : Recovers object rest (later value) result) :
    Recovers object ((name, json) :: rest) (partOr missing short name read >>= later) result := by
  intro distinct suffix
  have field := field?_of_mem distinct (suffix.subset List.mem_cons_self)
  have part : partOr missing short name read (.named (.object object))
      = some (value, .named (.object object)) := by
    simp only [partOr, field, found, Option.map_some]
  have last := recovers distinct ((List.suffix_cons _ rest).trans suffix)
  change RecordReader.andThen _ _ _ = _
  simp only [RecordReader.andThen, part, last]

/-- A part that is left out. -/
theorem Recovers.absent (absent : name ∉ object.map (·.1))
    (recovers : Recovers object rest (later value) result) :
    Recovers object rest (partOr (some value) short name read >>= later) result := by
  intro distinct suffix
  have part : partOr (some value) short name read (.named (.object object))
      = some (value, .named (.object object)) := by
    simp only [partOr, field?_of_not_mem absent, Option.map_some]
  have last := recovers distinct suffix
  change RecordReader.andThen _ _ _ = _
  simp only [RecordReader.andThen, part, last]

end Next

/-- **A record whose parts are recovered one after another.** -/
theorem readRecord?_object {reader : RecordReader α} {value : α}
    (distinct : (object.map (·.1)).Nodup) (recovers : Recovers object object reader value) :
    readRecord? reader (.object object) = some value := by
  have read := recovers distinct (List.suffix_refl object)
  simp only [readRecord?, read, RecordSource.isUsedUp, if_true]

end Records

/-! ### Parts that are not read -/

section Required

variable {α β γ : Type} {name : String} {read : Json → Option β} {reader : RecordReader γ}

/-- A part is read, and then the next ones, where all of them are read from an object. -/
theorem exists_part_of_isSome {missing : Option α} {short : Bool} {later : α → RecordReader γ}
    {readPart : Json → Option α} {fields : Json}
    (found : ((partOr missing short name readPart >>= later) (.named fields)).isSome) :
    ∃ value, partOr missing short name readPart (.named fields) = some (value, .named fields)
      ∧ (later value (.named fields)).isSome := by
  change (RecordReader.andThen _ _ _).isSome = true at found
  unfold RecordReader.andThen at found
  cases part : partOr missing short name readPart (.named fields) with
  | none =>
    rw [part] at found
    nomatch found
  | some result =>
    obtain ⟨value, rest⟩ := result
    have same : rest = .named fields := by
      unfold partOr at part
      cases field : fields.field? name <;>
        simp only [field, Option.map_eq_some_iff, Prod.mk.injEq] at part <;>
        obtain ⟨_, -, -, rfl⟩ := part <;> rfl
    rw [part, same] at found
    exact ⟨value, by rw [same], found⟩

/-- A reader finds nothing in an object with a field of which no value is read. -/
def Requires (name : String) (read : Json → Option β) (reader : RecordReader γ) : Prop :=
  ∀ fields json, fields.field? name = some json → (reader (.named fields)).isSome →
    (read json).isSome

/-- The part of the field itself. -/
theorem Requires.here {missing : Option β} {short : Bool} {later : β → RecordReader γ} :
    Requires name read (partOr missing short name read >>= later) := by
  intro fields json field found
  obtain ⟨value, part, -⟩ := exists_part_of_isSome found
  simp only [partOr, field, Option.map_eq_some_iff] at part
  obtain ⟨_, result, -⟩ := part
  rw [result]
  rfl

/-- A part before that of the field. -/
theorem Requires.later {missing : Option α} {short : Bool} {other : String}
    {readOther : Json → Option α} {later : α → RecordReader γ}
    (requires : ∀ value, Requires name read (later value)) :
    Requires name read (partOr missing short other readOther >>= later) := by
  intro fields json field found
  obtain ⟨value, -, rest⟩ := exists_part_of_isSome found
  exact requires value fields json field rest

/-- **No record is read with a part that is not.** -/
theorem isSome_of_readRecord? (requires : Requires name read reader)
    {object : List (String × Json)} (distinct : (object.map (·.1)).Nodup) {json : Json}
    (member : (name, json) ∈ object) (found : (readRecord? reader (.object object)).isSome) :
    (read json).isSome := by
  refine requires (.object object) json (field?_of_mem distinct member) ?_
  unfold readRecord? at found
  cases result : reader (.named (.object object)) with
  | some _ => rfl
  | none =>
    simp only [result] at found
    exact found

end Required

/-! ### Options, lists and maps -/

section Values

variable {α β : Type} {read : Json → Option β} {write : α → Json} {change : α → β}
  {object : List (String × Json)}

/-- A value that may be missing is read back, if nothing is read from null. -/
theorem readOption?_writeOption (null : read .null = none) {option : Option α}
    (found : ∀ value ∈ option, read (write value) = some (change value)) :
    readOption? read (writeOption write option) = some (option.map change) := by
  cases option with
  | none => rfl
  | some value =>
    have present := found value rfl
    have written : writeOption write (some value) = write value := rfl
    unfold readOption?
    rw [written]
    split
    · rename_i empty
      rw [empty, null] at present
      exact nomatch present
    · rw [present]
      rfl

theorem readOption?_writeOption_self {option : Option α} {reader : Json → Option α}
    (null : reader .null = none) (found : ∀ value, reader (write value) = some value) :
    readOption? reader (writeOption write option) = some option := by
  have read := readOption?_writeOption null fun value (_ : value ∈ option) => found value
  rwa [Option.map_id'] at read

theorem readOption?_ofText? (text : Option String) :
    readOption? text? (ofText? text) = some text :=
  readOption?_writeOption_self rfl fun _ => rfl

/-- A list of values is read back where each of them is. -/
theorem mapM_map_eq_some {γ δ ε : Type} {decode : δ → Option ε} {encode : γ → δ} {result : γ → ε}
    {items : List γ} (found : ∀ item ∈ items, decode (encode item) = some (result item)) :
    (items.map encode).mapM decode = some (items.map result) := by
  induction items with
  | nil => rfl
  | cons item items hypothesis =>
    rw [List.forall_mem_cons] at found
    rw [List.map_cons, List.mapM_cons, found.1, hypothesis found.2]
    rfl

/-- What is read from the entries of a list does not depend on their order. -/
theorem mapM_perm {γ δ : Type} {read? : γ → Option δ} {first second : List γ}
    (perm : first.Perm second) {results : List δ} (read : second.mapM read? = some results) :
    ∃ others, first.mapM read? = some others ∧ others.Perm results := by
  induction perm generalizing results with
  | nil => exact ⟨results, read, List.Perm.refl _⟩
  | cons entry perm hypothesis =>
    rw [List.mapM_cons] at read
    simp only [Option.bind_eq_bind, Option.bind_eq_some_iff, Option.pure_def,
      Option.some.injEq] at read
    obtain ⟨result, head, rest, tail, rfl⟩ := read
    obtain ⟨others, found, close⟩ := hypothesis tail
    exact ⟨result :: others, by rw [List.mapM_cons, head, found]; rfl, close.cons result⟩
  | swap one other entries =>
    rw [List.mapM_cons, List.mapM_cons] at read
    simp only [Option.bind_eq_bind, Option.bind_eq_some_iff, Option.pure_def,
      Option.some.injEq] at read
    obtain ⟨left, first, _, ⟨right, second, rest, tail, rfl⟩, rfl⟩ := read
    refine ⟨right :: left :: rest, ?_, List.Perm.swap _ _ _⟩
    rw [List.mapM_cons, List.mapM_cons, first, second, tail]
    rfl
  | trans _ _ left right =>
    obtain ⟨middle, found, close⟩ := right read
    obtain ⟨others, first, near⟩ := left found
    exact ⟨others, first, near.trans close⟩

/-- **A map is read back, whatever the order of its fields.** -/
theorem readDict?_write {κ : Type} [Ord κ] [Std.TransOrd κ] [Std.LawfulEqOrd κ]
    {readKey : String → Option κ} {keyName : κ → String}
    (keys : ∀ key, readKey (keyName key) = some key) (dict : Dict κ α)
    (found : ∀ entry ∈ dict.entries, read (write entry.2) = some (change entry.2)) :
    readDict? readKey read (.object (dict.entries.map fun entry => (keyName entry.1, write entry.2)))
      = some (dict.mapValues change) := by
  have distinct : ((dict.entries.map fun entry => (keyName entry.1, write entry.2)).map
      (·.1)).Nodup := by
    have injective : Function.Injective keyName := fun first second same =>
      Option.some_inj.mp ((keys first).symm.trans ((congrArg readKey same).trans (keys second)))
    have named := dict.nodup_keys.map injective
    rw [List.map_map] at named ⊢
    exact named
  have entries : (dict.entries.map fun entry => (keyName entry.1, write entry.2)).mapM
      (fun field => do return (← readKey field.1, ← read field.2))
      = some (dict.entries.map fun entry => (entry.1, change entry.2)) := by
    refine mapM_map_eq_some fun entry member => ?_
    simp only [keys, found entry member, Option.bind_eq_bind, Option.bind_some, Option.pure_def]
  obtain ⟨others, listed, perm⟩ := mapM_perm (Dict.ofList_perm distinct) entries
  unfold readDict? fields?
  simp only [Option.bind_eq_bind, Option.bind_some] at listed ⊢
  rw [listed]
  have same : Dict.ofList others = dict.mapValues change := Dict.ofList_eq_of_perm perm
  exact congrArg some same

theorem readTextDict?_write (dict : Dict String α)
    (found : ∀ entry ∈ dict.entries, read (write entry.2) = some (change entry.2)) :
    readTextDict? read (writeTextDict write dict) = some (dict.mapValues change) :=
  readDict?_write (fun _ => rfl) dict found

/-- Entries that are read keep their names. -/
theorem names_of_mapM {entries : List (String × β)} (listed : object.mapM (fun (name, value) => do
    return (← some name, ← read value)) = some entries) :
    entries.map (·.1) = object.map (·.1) := by
  induction object generalizing entries with
  | nil => cases listed; rfl
  | cons field object hypothesis =>
    rw [List.mapM_cons] at listed
    simp only [Option.bind_eq_bind, Option.bind_eq_some_iff, Option.pure_def,
      Option.some.injEq] at listed
    obtain ⟨_, ⟨_, rfl, value, -, rfl⟩, rest, found, rfl⟩ := listed
    rw [List.map_cons, List.map_cons, hypothesis found]

/-- **A map has an entry for each name of the object that it is read of.** -/
theorem size_of_readTextDict? {json : Json} {dict : Dict String β}
    (found : readTextDict? read json = some dict) :
    ∃ object, json = .object object ∧ dict.size = (object.map (·.1)).dedup.length := by
  obtain ⟨fields, named, rest⟩ := Option.bind_eq_some_iff.mp found
  obtain ⟨entries, listed, result⟩ := Option.bind_eq_some_iff.mp rest
  cases result
  have names := names_of_mapM listed
  cases json with
  | object object =>
    cases named
    refine ⟨object, rfl, ?_⟩
    have distinct : (entries.map (·.1)).Nodup := names ▸ (Dict.ofList object).nodup_keys
    rw [← Dict.size_ofList, Dict.size_eq_length_keys (Dict.ofList object), Dict.keys, ← names,
      List.length_map]
    exact (Dict.ofList_perm distinct).length_eq
  | _ => cases named

theorem isSome_of_mapM {γ δ : Type} {decode : γ → Option δ} {items : List γ} {results : List δ}
    (found : items.mapM decode = some results) : ∀ item ∈ items, (decode item).isSome := by
  induction items generalizing results with
  | nil => exact fun _ member => nomatch member
  | cons item items hypothesis =>
    rw [List.mapM_cons] at found
    obtain ⟨first, decoded, rest⟩ := Option.bind_eq_some_iff.mp found
    obtain ⟨others, listed, -⟩ := Option.bind_eq_some_iff.mp rest
    exact List.forall_mem_cons.mpr ⟨by rw [decoded]; rfl, hypothesis listed⟩

/-- **No map is read with an entry that is not.** -/
theorem isSome_of_readTextDict? {dict : Dict String α}
    (found : (readTextDict? read (writeTextDict write dict)).isSome) :
    ∀ entry ∈ dict.entries, (read (write entry.2)).isSome := by
  intro entry member
  obtain ⟨back, result⟩ := Option.isSome_iff_exists.mp found
  obtain ⟨entries, listed, -⟩ := Option.bind_eq_some_iff.mp result
  have distinct : ((dict.entries.map fun entry => (entry.1, write entry.2)).map (·.1)).Nodup := by
    rw [List.map_map]
    exact dict.nodup_keys
  have inside := (Dict.ofList_perm distinct).mem_iff.mpr (List.mem_map_of_mem member)
  obtain ⟨named, decoded⟩ := Option.isSome_iff_exists.mp (isSome_of_mapM listed _ inside)
  obtain ⟨_, -, second⟩ := Option.bind_eq_some_iff.mp decoded
  obtain ⟨value, value_found, -⟩ := Option.bind_eq_some_iff.mp second
  exact Option.isSome_of_mem value_found

theorem readTextDict?_texts (dict : Dict String String) :
    readTextDict? text? (writeTextDict .text dict) = some dict := by
  have texts : readTextDict? text? (writeTextDict .text dict) = some (dict.mapValues id) :=
    readTextDict?_write dict fun _ _ => rfl
  rw [texts, Dict.mapValues_id]

theorem readList?_texts (texts : List String) :
    readList? text? (writeList .text texts) = some texts := by
  have items : (texts.map Json.text).mapM text? = some (texts.map id) :=
    mapM_map_eq_some fun _ _ => rfl
  rw [List.map_id] at items
  exact items

end Values

section OptionalField

variable {α β γ : Type} {object rest : List (String × Json)} {name : String}
  {read : Json → Option β} {write : α → Json} {change : α → β} {option : Option α}

/-- A part that is written next, or left out where its value is missing. -/
theorem Recovers.optionalField {later : Option β → RecordReader γ} {result : γ}
    (null : read .null = none) (found : ∀ value ∈ option, read (write value) = some (change value))
    (absent : option = none → name ∉ object.map (·.1))
    (recovers : Recovers object rest (later (option.map change)) result) :
    Recovers object (optionalField name write option ++ rest) (trailingPart name read >>= later)
      result := by
  cases option with
  | none => exact .absent (absent rfl) recovers
  | some value => exact .next (readOption?_writeOption null found) recovers

end OptionalField

end Paydesk.Json
