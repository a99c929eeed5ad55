/-
**Dictionaries in key order.**

A dictionary is a list of entries whose keys ascend strictly, so two dictionaries with the same
entries are equal and every walk over one is in key order.

* `Dict.get?`: the value of a key;
* `Dict.insert`: sets a key, in place if it is there;
* `Dict.ofList`: later entries replace earlier ones;
* `Dict.merge`: the entries of the second dictionary win.
-/

namespace Paydesk

/-- The entries of a sorted list with one key set. -/
def insertEntry {κ α : Type} [Ord κ] (key : κ) (value : α) : List (κ × α) → List (κ × α)
  | [] => [(key, value)]
  | entry :: rest =>
    match compare key entry.1 with
    | .lt => (key, value) :: entry :: rest
    | .eq => (key, value) :: rest
    | .gt => entry :: insertEntry key value rest

/-- Entries whose keys ascend strictly. -/
def KeysAscend {κ α : Type} [Ord κ] (entries : List (κ × α)) : Prop :=
  entries.Pairwise fun first second => compare first.1 second.1 = .lt

section Insert

variable {κ α : Type} [Ord κ]

theorem mem_insertEntry {key : κ} {value : α} {entries : List (κ × α)} {entry : κ × α}
    (member : entry ∈ insertEntry key value entries) :
    entry = (key, value) ∨ entry ∈ entries := by
  induction entries with
  | nil => simp_all [insertEntry]
  | cons head rest hypothesis =>
    unfold insertEntry at member
    split at member
    · simp_all
    · simp only [List.mem_cons] at member ⊢
      rcases member with equal | inside
      · exact Or.inl equal
      · exact Or.inr (Or.inr inside)
    · simp only [List.mem_cons] at member ⊢
      rcases member with equal | inside
      · exact Or.inr (Or.inl equal)
      · exact (hypothesis inside).imp id Or.inr

/-- Setting a key keeps the keys ascending. -/
theorem keysAscend_insertEntry [Std.TransOrd κ] [Std.LawfulEqOrd κ] (key : κ) (value : α)
    {entries : List (κ × α)} (ascend : KeysAscend entries) :
    KeysAscend (insertEntry key value entries) := by
  induction entries with
  | nil => simp [insertEntry, KeysAscend]
  | cons head rest hypothesis =>
    unfold KeysAscend at ascend
    rw [List.pairwise_cons] at ascend
    obtain ⟨headFirst, restAscend⟩ := ascend
    unfold insertEntry
    split
    · rename_i before
      unfold KeysAscend
      refine List.pairwise_cons.mpr ⟨?_, List.pairwise_cons.mpr ⟨headFirst, restAscend⟩⟩
      intro entry member
      rcases List.mem_cons.mp member with equal | inside
      · rw [equal]; exact before
      · exact Std.TransCmp.lt_trans before (headFirst entry inside)
    · rename_i same
      have equal : key = head.1 := Std.LawfulEqCmp.eq_of_compare same
      unfold KeysAscend
      refine List.pairwise_cons.mpr ⟨?_, restAscend⟩
      intro entry member
      rw [equal]; exact headFirst entry member
    · rename_i after
      unfold KeysAscend
      refine List.pairwise_cons.mpr ⟨?_, hypothesis restAscend⟩
      intro entry member
      rcases mem_insertEntry member with equal | inside
      · rw [equal, Std.OrientedOrd.eq_swap, after]; rfl
      · exact headFirst entry inside

/-- Looking a key up among entries with one key set. -/
theorem find?_insertEntry [Std.TransOrd κ] [Std.LawfulEqOrd κ] (key other : κ) (value : α)
    (entries : List (κ × α)) :
    (insertEntry key value entries).find? (fun entry => compare other entry.1 == .eq) =
      if compare other key = .eq then some (key, value)
      else entries.find? fun entry => compare other entry.1 == .eq := by
  induction entries with
  | nil => by_cases same : compare other key = .eq <;> simp [insertEntry, same]
  | cons head rest ih =>
    unfold insertEntry
    split
    · by_cases same : compare other key = .eq <;> simp [List.find?_cons, same]
    · rename_i equal
      have keyIsHead : key = head.1 := Std.LawfulEqCmp.eq_of_compare equal
      by_cases same : compare other key = .eq
      · simp [same]
      · have differs : compare other head.1 ≠ .eq := keyIsHead ▸ same
        simp [same, differs]
    · rename_i after
      rw [List.find?_cons, List.find?_cons, ih]
      by_cases same : compare other key = .eq
      · have otherIsKey : other = key := Std.LawfulEqCmp.eq_of_compare same
        simp [otherIsKey, after]
      · simp [same]

end Insert

/-- A map from keys to values, listed by ascending key. -/
structure Dict (κ α : Type) [Ord κ] where
  entries : List (κ × α)
  ascend : KeysAscend entries

namespace Dict

variable {κ α β : Type} [Ord κ]

/-- The dictionary without entries. -/
def empty : Dict κ α := ⟨[], List.Pairwise.nil⟩

instance : EmptyCollection (Dict κ α) := ⟨empty⟩

instance : Inhabited (Dict κ α) := ⟨empty⟩

instance [DecidableEq κ] [DecidableEq α] : DecidableEq (Dict κ α) := fun first second =>
  if equal : first.entries = second.entries then
    isTrue (by cases first; cases second; simp_all)
  else
    isFalse (by intro same; exact equal (congrArg Dict.entries same))

/-- The value of a key. -/
def get? (dict : Dict κ α) (key : κ) : Option α :=
  (dict.entries.find? fun entry => compare key entry.1 == .eq).map (·.2)

/-- Whether a key has a value. -/
def contains (dict : Dict κ α) (key : κ) : Bool := (dict.get? key).isSome

/-- The number of entries. -/
def size (dict : Dict κ α) : Nat := dict.entries.length

def isEmpty (dict : Dict κ α) : Bool := dict.entries.isEmpty

def keys (dict : Dict κ α) : List κ := dict.entries.map (·.1)

def values (dict : Dict κ α) : List α := dict.entries.map (·.2)

/-- Every value replaced by what a function makes of it. -/
def mapValues (change : α → β) (dict : Dict κ α) : Dict κ β where
  entries := dict.entries.map fun entry => (entry.1, change entry.2)
  ascend := by
    unfold KeysAscend
    rw [List.pairwise_map]
    exact dict.ascend

/-- The entries that pass a test. -/
def filter (keep : κ → α → Bool) (dict : Dict κ α) : Dict κ α where
  entries := dict.entries.filter fun entry => keep entry.1 entry.2
  ascend := List.Pairwise.filter _ dict.ascend

@[simp] theorem get?_empty (key : κ) : (∅ : Dict κ α).get? key = none := rfl

variable [Std.TransOrd κ] [Std.LawfulEqOrd κ]

/-- Sets the value of a key. -/
def insert (dict : Dict κ α) (key : κ) (value : α) : Dict κ α :=
  ⟨insertEntry key value dict.entries, keysAscend_insertEntry key value dict.ascend⟩

theorem get?_insert_self (dict : Dict κ α) (key : κ) (value : α) :
    (dict.insert key value).get? key = some value := by
  simp [get?, insert, find?_insertEntry]

theorem get?_insert_of_ne (dict : Dict κ α) {key other : κ} (differs : other ≠ key) (value : α) :
    (dict.insert key value).get? other = dict.get? other := by
  have apart : compare other key ≠ .eq := fun same =>
    differs (Std.LawfulEqCmp.eq_of_compare same)
  simp [get?, insert, find?_insertEntry, apart]

/-- The dictionary of a list of entries; the last entry of a key counts. -/
def ofList (entries : List (κ × α)) : Dict κ α :=
  entries.foldl (fun dict entry => dict.insert entry.1 entry.2) empty

/-- Both dictionaries' entries; on a shared key the second one's value counts. -/
def merge (first second : Dict κ α) : Dict κ α :=
  second.entries.foldl (fun dict entry => dict.insert entry.1 entry.2) first

/-- Changes the value of a key, starting from a default where there is none. -/
def alter (dict : Dict κ α) (key : κ) (change : Option α → α) : Dict κ α :=
  dict.insert key (change (dict.get? key))

end Dict

end Paydesk
