/-
**Dictionaries and their entries.**

A dictionary is its entries in key order, so it does not matter in which order they were set.

* `mapValues_mapValues`: values replaced twice;
* `insertEntry_perm`, `ofList_perm`: setting new keys adds their entries;
* `exists_insertEntry_eq`: setting a key leaves all other entries where they are;
* `Dict.eq_of_perm`, `Dict.eq_of_get?`: **two dictionaries with the same entries, or with the same
  values, are equal**;
* `Dict.eq_of_mem_iff`: so are lists of entries with ascending keys;
* `Dict.get?_filter`: what a key has among the entries that pass a test;
* `Dict.size_insert_of_contains`, `Dict.size_insert_of_fresh`, `Dict.size_ofList`: how many entries
  there are after a key is set, and in a dictionary that is made of a list;
* `Dict.ofList_eq_of_perm`: entries with distinct keys make one dictionary, however they are listed.
-/

import Mathlib.Data.List.Dedup
import Mathlib.Data.List.Nodup
import Mathlib.Tactic.Tauto
import Paydesk.Dict

namespace Paydesk

/-- Setting a key that is new adds its entry. -/
theorem insertEntry_perm {κ α : Type} [Ord κ] [Std.LawfulEqOrd κ] {key : κ}
    {entries : List (κ × α)} (fresh : key ∉ entries.map (·.1)) (value : α) :
    (insertEntry key value entries).Perm ((key, value) :: entries) := by
  induction entries with
  | nil => exact List.Perm.refl _
  | cons head rest hypothesis =>
    rw [List.map_cons, List.mem_cons, not_or] at fresh
    unfold insertEntry
    split
    · exact List.Perm.refl _
    · rename_i same
      exact absurd (Std.LawfulEqCmp.eq_of_compare same) fresh.1
    · exact ((hypothesis fresh.2).cons head).trans (List.Perm.swap _ _ _)

/-- A key is set between two lists of entries that do not depend on its value. -/
theorem exists_insertEntry_eq {κ α : Type} [Ord κ] (key : κ) (entries : List (κ × α)) :
    ∃ before after, ∀ value, insertEntry key value entries = before ++ (key, value) :: after := by
  induction entries with
  | nil => exact ⟨[], [], fun _ => rfl⟩
  | cons head rest hypothesis =>
    unfold insertEntry
    cases compare key head.1 with
    | lt => exact ⟨[], head :: rest, fun _ => rfl⟩
    | eq => exact ⟨[], rest, fun _ => rfl⟩
    | gt =>
      obtain ⟨before, after, split⟩ := hypothesis
      exact ⟨head :: before, after, fun value => congrArg (head :: ·) (split value)⟩

namespace Dict

theorem mapValues_id {κ α : Type} [Ord κ] (dict : Dict κ α) : dict.mapValues id = dict := by
  simp [mapValues]

theorem mapValues_mapValues {κ α β γ : Type} [Ord κ] (second : β → γ) (first : α → β)
    (dict : Dict κ α) :
    (dict.mapValues first).mapValues second = dict.mapValues (second ∘ first) := by
  simp [mapValues]

theorem mapValues_congr {κ α β : Type} [Ord κ] {first second : α → β} {dict : Dict κ α}
    (same : ∀ entry ∈ dict.entries, first entry.2 = second entry.2) :
    dict.mapValues first = dict.mapValues second := by
  unfold mapValues
  congr 1
  exact List.map_congr_left fun entry member => by rw [same entry member]

/-- The entry that is found for a key is the key's. -/
theorem key_eq_of_find? {κ α : Type} [Ord κ] [Std.LawfulEqOrd κ] {dict : Dict κ α} {key : κ}
    {entry : κ × α}
    (found : dict.entries.find? (fun entry => compare key entry.1 == .eq) = some entry) :
    key = entry.1 := by
  have same := List.find?_some found
  exact Std.LawfulEqCmp.eq_of_compare (beq_iff_eq.mp same)

theorem size_eq_length_keys {κ α : Type} [Ord κ] (dict : Dict κ α) :
    dict.size = dict.keys.length :=
  (List.length_map _).symm

variable {κ α : Type} [Ord κ] [Std.TransOrd κ]

/-- No key of a dictionary comes twice. -/
theorem nodup_keys (dict : Dict κ α) : (dict.entries.map (·.1)).Nodup := by
  rw [List.Nodup, List.pairwise_map]
  refine dict.ascend.imp fun {first second} before same => ?_
  have equal : compare first.1 first.1 = .eq := Std.ReflCmp.compare_self
  rw [← same, equal] at before
  exact absurd before (by decide)

theorem nodup_entries (dict : Dict κ α) : dict.entries.Nodup := List.Nodup.of_map _ dict.nodup_keys

/-- **Two dictionaries with the same entries are equal.** -/
theorem eq_of_perm {first second : Dict κ α} (perm : first.entries.Perm second.entries) :
    first = second := by
  have equal : first.entries = second.entries := by
    refine List.Perm.eq_of_pairwise (fun entry other _ _ before after => ?_) first.ascend
      second.ascend perm
    rw [Std.OrientedOrd.eq_swap, after] at before
    exact absurd before (by decide)
  cases first
  cases second
  simp_all

/-- **Two lists with ascending keys and the same entries are equal.** -/
theorem eq_of_mem_iff {entries others : List (κ × α)} (ascend : KeysAscend entries)
    (ascend_others : KeysAscend others) (same : ∀ entry, entry ∈ entries ↔ entry ∈ others) :
    entries = others := by
  have equal : (⟨entries, ascend⟩ : Dict κ α) = ⟨others, ascend_others⟩ := by
    apply eq_of_perm
    exact (List.perm_ext_iff_of_nodup (nodup_entries ⟨entries, ascend⟩)
      (nodup_entries ⟨others, ascend_others⟩)).mpr same
  exact congrArg Dict.entries equal

variable [Std.LawfulEqOrd κ]

/-- The value of a key is the one that it has among the entries. -/
theorem mem_entries_iff {dict : Dict κ α} {key : κ} {value : α} :
    (key, value) ∈ dict.entries ↔ dict.get? key = some value := by
  unfold get?
  constructor
  · intro member
    have same_key : compare key key == .eq := beq_iff_eq.mpr Std.ReflCmp.compare_self
    cases found : dict.entries.find? fun entry => compare key entry.1 == .eq with
    | none => exact absurd same_key (List.find?_eq_none.mp found _ member)
    | some entry =>
      have equal : entry = (key, value) := List.inj_on_of_nodup_map dict.nodup_keys
        (List.mem_of_find?_eq_some found) member (key_eq_of_find? found).symm
      rw [Option.map_some, equal]
  · intro found
    obtain ⟨entry, inside, rfl⟩ := Option.map_eq_some_iff.mp found
    rw [key_eq_of_find? inside]
    exact List.mem_of_find?_eq_some inside

/-- **Two dictionaries with the same values are equal.** -/
theorem eq_of_get? {first second : Dict κ α} (same : ∀ key, first.get? key = second.get? key) :
    first = second := by
  refine eq_of_perm ((List.perm_ext_iff_of_nodup first.nodup_entries second.nodup_entries).mpr ?_)
  rintro ⟨key, value⟩
  rw [mem_entries_iff, mem_entries_iff, same]

/-- A key has its value among the entries that pass a test, if its own entry passes. -/
theorem get?_filter (keep : κ → α → Bool) (dict : Dict κ α) (key : κ) :
    (dict.filter keep).get? key = (dict.get? key).filter (keep key) := by
  ext value
  show (dict.filter keep).get? key = some value ↔ value ∈ (dict.get? key).filter (keep key)
  rw [← mem_entries_iff, Option.mem_filter_iff, Option.mem_def, ← mem_entries_iff]
  exact List.mem_filter

theorem get?_filter_of_pos {keep : κ → α → Bool} {key : κ}
    (kept : ∀ value, keep key value = true) (dict : Dict κ α) :
    (dict.filter keep).get? key = dict.get? key := by
  rw [get?_filter]
  cases dict.get? key with
  | none => rfl
  | some value => exact Option.filter_some_pos (kept value)

theorem get?_filter_of_neg {keep : κ → α → Bool} {key : κ}
    (dropped : ∀ value, keep key value = false) (dict : Dict κ α) :
    (dict.filter keep).get? key = none := by
  rw [get?_filter]
  cases dict.get? key with
  | none => rfl
  | some value => exact Option.filter_some_neg (dropped value)

/-! ### Keys -/

theorem contains_iff_mem_keys {dict : Dict κ α} {key : κ} :
    dict.contains key = true ↔ key ∈ dict.keys := by
  unfold contains keys
  rw [Option.isSome_iff_exists, List.mem_map]
  constructor
  · rintro ⟨value, found⟩
    exact ⟨(key, value), mem_entries_iff.mpr found, rfl⟩
  · rintro ⟨⟨same, value⟩, member, rfl⟩
    exact ⟨value, mem_entries_iff.mp member⟩

theorem keys_insert_perm {dict : Dict κ α} {key : κ} (fresh : key ∉ dict.keys) (value : α) :
    (dict.insert key value).keys.Perm (key :: dict.keys) :=
  (insertEntry_perm fresh value).map Prod.fst

theorem mem_keys_insert {dict : Dict κ α} {key other : κ} {value : α} :
    other ∈ (dict.insert key value).keys ↔ other = key ∨ other ∈ dict.keys := by
  rw [← contains_iff_mem_keys, ← contains_iff_mem_keys]
  unfold contains
  by_cases same : other = key
  · simp [same, get?_insert_self]
  · simp [same, get?_insert_of_ne]

/-- A key that is there keeps its place. -/
theorem size_insert_of_contains {dict : Dict κ α} {key : κ} (known : dict.contains key) (value : α) :
    (dict.insert key value).size = dict.size := by
  have perm : (dict.insert key value).keys.Perm dict.keys := by
    refine (List.perm_ext_iff_of_nodup (nodup_keys _) dict.nodup_keys).mpr fun other => ?_
    refine mem_keys_insert.trans (or_iff_right_of_imp ?_)
    rintro rfl
    exact contains_iff_mem_keys.mp known
  rw [size_eq_length_keys, size_eq_length_keys, perm.length_eq]

/-- A new key is one more. -/
theorem size_insert_of_fresh {dict : Dict κ α} {key : κ} (fresh : key ∉ dict.keys) (value : α) :
    (dict.insert key value).size = dict.size + 1 := by
  rw [size_eq_length_keys, size_eq_length_keys, (keys_insert_perm fresh value).length_eq,
    List.length_cons]

theorem mem_keys_foldl_insert {entries : List (κ × α)} {dict : Dict κ α} {key : κ} :
    key ∈ (entries.foldl (fun dict entry => dict.insert entry.1 entry.2) dict).keys
      ↔ key ∈ entries.map (·.1) ∨ key ∈ dict.keys := by
  induction entries generalizing dict with
  | nil => simp
  | cons entry entries hypothesis =>
    rw [List.foldl_cons, hypothesis, mem_keys_insert, List.map_cons, List.mem_cons]
    tauto

/-- **A dictionary has one entry for each key of the list that it is made of.** -/
theorem size_ofList [DecidableEq κ] (entries : List (κ × α)) :
    (ofList entries).size = (entries.map (·.1)).dedup.length := by
  have perm : (ofList entries).keys.Perm (entries.map (·.1)).dedup := by
    refine (List.perm_ext_iff_of_nodup (nodup_keys _) (List.nodup_dedup _)).mpr fun key => ?_
    rw [List.mem_dedup]
    exact mem_keys_foldl_insert.trans (or_iff_left List.not_mem_nil)
  rw [size_eq_length_keys, perm.length_eq]

/-! ### Lists of entries -/

/-- Entries with distinct new keys are added one by one. -/
theorem foldl_insert_perm {entries : List (κ × α)} (distinct : (entries.map (·.1)).Nodup)
    {dict : Dict κ α} (fresh : ∀ key ∈ entries.map (·.1), key ∉ dict.entries.map (·.1)) :
    (entries.foldl (fun dict entry => dict.insert entry.1 entry.2) dict).entries.Perm
      (dict.entries ++ entries) := by
  induction entries generalizing dict with
  | nil => simp
  | cons entry entries hypothesis =>
    rw [List.map_cons, List.nodup_cons] at distinct
    rw [List.map_cons, List.forall_mem_cons] at fresh
    have added : (dict.insert entry.1 entry.2).entries.Perm (entry :: dict.entries) :=
      insertEntry_perm fresh.1 entry.2
    refine (hypothesis distinct.2 fun key member stored => ?_).trans ?_
    · rcases List.mem_cons.mp ((added.map (·.1)).subset stored) with same | before
      · rw [same] at member
        exact distinct.1 member
      · exact fresh.2 key member before
    · exact (added.append_right entries).trans List.perm_middle.symm

/-- A dictionary has the entries it was made of, if their keys are distinct. -/
theorem ofList_perm {entries : List (κ × α)} (distinct : (entries.map (·.1)).Nodup) :
    (ofList entries).entries.Perm entries :=
  foldl_insert_perm distinct fun _ _ => List.not_mem_nil

/-- Entries of a dictionary make it up again, however they are listed. -/
theorem ofList_eq_of_perm {entries : List (κ × α)} {dict : Dict κ α}
    (perm : entries.Perm dict.entries) : ofList entries = dict :=
  eq_of_perm ((ofList_perm ((perm.map (·.1)).nodup_iff.mpr dict.nodup_keys)).trans perm)

end Dict

end Paydesk
