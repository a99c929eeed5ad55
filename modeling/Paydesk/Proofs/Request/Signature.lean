/-
**What a signature tells apart.**

A signed text lists its entries without a mark of where a value ends, so a value with a bar and an
equals sign after it reads as two entries, and a signature of the one request is a signature of the
other. Where no entry can be read in two ways, the text determines every entry that is signed.

* `signedText_eq_of_split`: two requests with one signed text, whatever the secret;
* `signedText_insert_inj`: a text shows every change of a single value;
* `barred_injective`: entries are found again in the text, one after another;
* `signature_tells_apart`: **plain requests that differ have different signed texts**, and a
  signature of the one is none of the other unless the digests of the texts collide.
-/

import Paydesk.Proofs.Dict
import Paydesk.Request.Signature

namespace Paydesk

/-! ### Texts that can be read in two ways -/

/-- An account with a bar in it. -/
def accountWithBar : Dict String String := Dict.empty.insert "PP_ACCOUNT" "bob|PP_AMOUNT=100"

/-- An account and an amount. -/
def accountAndAmount : Dict String String :=
  (Dict.empty.insert "PP_ACCOUNT" "bob").insert "PP_AMOUNT" "100"

/-- **An entry can hide in the value of another**: one of these requests has no amount, and their
signatures are the same for every secret. -/
theorem signedText_eq_of_split : accountWithBar.get? "PP_AMOUNT" ≠ accountAndAmount.get? "PP_AMOUNT"
    ∧ (∀ secret, signedText accountWithBar secret = signedText accountAndAmount secret)
    ∧ ∀ secret supplied, isSignedBy accountWithBar secret supplied
      = isSignedBy accountAndAmount secret supplied := by
  have same (secret : String) :
      signedText accountWithBar secret = signedText accountAndAmount secret := by rfl
  refine ⟨by decide, same, fun secret supplied => ?_⟩
  unfold isSignedBy signatureDigest
  rw [same]

/-! ### Entries one after another -/

/-- An entry that can be read in one way only: its key has no separator in it, and its value no
equals sign after a bar. -/
structure IsPlainEntry (entry : String × String) : Prop where
  no_equals : '=' ∉ entry.1.toList
  no_bar : '|' ∉ entry.1.toList
  no_entry : '=' ∉ entry.2.toList.dropWhile (· != '|')

instance (entry : String × String) : Decidable (IsPlainEntry entry) :=
  decidable_of_iff ('=' ∉ entry.1.toList ∧ '|' ∉ entry.1.toList
      ∧ '=' ∉ entry.2.toList.dropWhile (· != '|'))
    ⟨fun ⟨equals, bar, value⟩ => ⟨equals, bar, value⟩, fun plain => ⟨plain.1, plain.2, plain.3⟩⟩

/-- Entries with a bar after each. -/
def barred (entries : List (String × String)) : List Char :=
  entries.flatMap fun entry => entry.1.toList ++ '=' :: (entry.2.toList ++ ['|'])

theorem barred_cons (entry : String × String) (rest : List (String × String)) :
    barred (entry :: rest) = entry.1.toList ++ '=' :: (entry.2.toList ++ '|' :: barred rest) := by
  simp [barred]

theorem barred_append (entries others : List (String × String)) :
    barred (entries ++ others) = barred entries ++ barred others := List.flatMap_append

/-- What comes before a separator that it has not in it is found again. -/
theorem append_cons_injective {sep : Char} {before other after rest : List Char}
    (absent : sep ∉ before) (absent_other : sep ∉ other)
    (same : before ++ sep :: after = other ++ sep :: rest) : before = other ∧ after = rest := by
  induction before generalizing other with
  | nil =>
    cases other with
    | nil => exact ⟨rfl, (List.cons.inj same).2⟩
    | cons char _ =>
      cases same
      exact absurd List.mem_cons_self absent_other
  | cons char chars hypothesis =>
    cases other with
    | nil =>
      cases same
      exact absurd List.mem_cons_self absent
    | cons head others =>
      obtain ⟨rfl, tails⟩ := List.cons.inj same
      rw [List.mem_cons, not_or] at absent absent_other
      obtain ⟨rfl, rest_eq⟩ := hypothesis absent.2 absent_other.2 tails
      exact ⟨rfl, rest_eq⟩

/-- Every bar among plain entries has an equals sign before it. -/
theorem equals_mem_of_barred {entries : List (String × String)}
    (plain : ∀ entry ∈ entries, IsPlainEntry entry) {before after : List Char}
    (found : barred entries = before ++ '|' :: after) : '=' ∈ before := by
  cases entries with
  | nil => exact absurd found.symm (by simp [barred])
  | cons entry rest =>
    rw [barred_cons] at found
    rcases List.append_eq_append_iff.mp found with ⟨more, rfl, tail⟩ | ⟨more, key, tail⟩
    · cases more with
      | nil => cases tail
      | cons char _ =>
        obtain ⟨rfl, -⟩ := List.cons.inj tail
        exact List.mem_append_right _ List.mem_cons_self
    · cases more with
      | nil => cases tail
      | cons char _ =>
        obtain ⟨rfl, -⟩ := List.cons.inj tail
        exact absurd (key ▸ List.mem_append_right _ List.mem_cons_self)
          (plain entry List.mem_cons_self).no_bar

/-- What follows the first bar or a later one is not dropped. -/
theorem mem_dropWhile_of_bar (before : List Char) {after : List Char} {char : Char}
    (member : char ∈ after) : char ∈ (before ++ '|' :: after).dropWhile (· != '|') := by
  induction before with
  | nil => exact List.mem_cons_of_mem _ member
  | cons head rest hypothesis =>
    rw [List.cons_append, List.dropWhile_cons]
    split
    · exact hypothesis
    · exact List.mem_cons_of_mem _ (List.mem_append_right _ (List.mem_cons_of_mem _ member))

/-- No plain value goes on after a bar that plain entries come after. -/
theorem value_not_longer {value more after : List Char} {entries : List (String × String)}
    (no_entry : '=' ∉ (value ++ '|' :: more).dropWhile (· != '|'))
    (plain : ∀ entry ∈ entries, IsPlainEntry entry) :
    barred entries ≠ more ++ '|' :: after := fun found =>
  no_entry (mem_dropWhile_of_bar value (equals_mem_of_barred plain found))

/-- **Plain entries are found again** in the text that lists them, by induction on the entries. -/
theorem barred_injective {entries others : List (String × String)}
    (plain : ∀ entry ∈ entries, IsPlainEntry entry)
    (plain_others : ∀ entry ∈ others, IsPlainEntry entry) (same : barred entries = barred others) :
    entries = others := by
  induction entries generalizing others with
  | nil =>
    cases others with
    | nil => rfl
    | cons other _ => exact absurd same (by simp [barred])
  | cons entry rest hypothesis =>
    cases others with
    | nil => exact absurd same (by simp [barred])
    | cons other others =>
      rw [List.forall_mem_cons] at plain plain_others
      rw [barred_cons, barred_cons] at same
      obtain ⟨key, values⟩ :=
        append_cons_injective plain.1.no_equals plain_others.1.no_equals same
      have value : entry.2.toList = other.2.toList ∧ barred rest = barred others := by
        rcases List.append_eq_append_iff.mp values with ⟨more, longer, tail⟩ | ⟨more, longer, tail⟩
        · cases more with
          | nil => exact ⟨by simpa using longer.symm, (List.cons.inj tail).2⟩
          | cons char more =>
            obtain ⟨rfl, found⟩ := List.cons.inj tail
            exact absurd found (value_not_longer (longer ▸ plain_others.1.no_entry) plain.2)
        · cases more with
          | nil => exact ⟨by simpa using longer, (List.cons.inj tail).2.symm⟩
          | cons char more =>
            obtain ⟨rfl, found⟩ := List.cons.inj tail
            exact absurd found (value_not_longer (longer ▸ plain.1.no_entry) plain_others.2)
      rw [Prod.ext (String.toList_inj.mp key) (String.toList_inj.mp value.1),
        hypothesis plain.2 plain_others.2 value.2]

/-! ### Signed texts -/

/-- The entries that are signed. -/
def signedEntries (params : Dict String String) : List (String × String) :=
  (params.filter fun key _ => key != signatureField).entries

/-- Every signed entry of a request can be read in one way only. -/
def Dict.IsPlain (params : Dict String String) : Prop :=
  ∀ entry ∈ signedEntries params, IsPlainEntry entry

instance (params : Dict String String) : Decidable params.IsPlain :=
  inferInstanceAs (Decidable (∀ entry ∈ signedEntries params, IsPlainEntry entry))

theorem mem_signedEntries {params : Dict String String} {key value : String}
    (signed : key ≠ signatureField) :
    (key, value) ∈ signedEntries params ↔ params.get? key = some value := by
  rw [← Dict.mem_entries_iff]
  unfold signedEntries Dict.filter
  rw [List.mem_filter, bne_iff_ne]
  exact and_iff_left signed

/-- Entries that are joined by bars, with one more bar at the end. -/
theorem intercalate_append_bar {entries : List (String × String)} (some_entry : entries ≠ []) :
    ['|'].intercalate (entries.map fun entry => (entry.1 ++ "=" ++ entry.2).toList) ++ ['|']
      = barred entries := by
  induction entries with
  | nil => exact absurd rfl some_entry
  | cons entry rest hypothesis =>
    rw [barred_cons]
    cases rest with
    | nil => simp [barred]
    | cons next rest =>
      rw [← hypothesis (List.cons_ne_nil next rest)]
      simp [List.intercalate_cons_cons]

/-- A signed text is its entries with a bar after each, or one bar alone, and the secret. -/
theorem toList_signedText (params : Dict String String) (secret : String) :
    (signedText params secret).toList
      = (if signedEntries params = [] then ['|'] else barred (signedEntries params))
        ++ secret.toList := by
  have text : (signedText params secret).toList
      = ['|'].intercalate ((signedEntries params).map fun entry =>
          (entry.1 ++ "=" ++ entry.2).toList) ++ ['|'] ++ secret.toList := by
    unfold signedText signedEntries
    simp [String.toList_intercalate, List.map_map, Function.comp_def]
  rw [text]
  congr 1
  by_cases empty : signedEntries params = []
  · rw [if_pos empty, empty]
    rfl
  · rw [if_neg empty, intercalate_append_bar empty]

/-- **A change of a single value** changes the signed text, whatever the entries are: the text is
the same before that value and after it. -/
theorem signedText_insert_inj {params : Dict String String} {key value other : String}
    (signed : key ≠ signatureField) (secret : String) :
    signedText (params.insert key value) secret = signedText (params.insert key other) secret ↔
      value = other := by
  refine ⟨fun same => ?_, fun same => same ▸ rfl⟩
  obtain ⟨before, after, split⟩ := exists_insertEntry_eq key params.entries
  obtain ⟨start, finish, entries⟩ : ∃ start finish, ∀ value,
      signedEntries (params.insert key value) = start ++ (key, value) :: finish := by
    refine ⟨before.filter (·.1 != signatureField), after.filter (·.1 != signatureField), ?_⟩
    intro value
    change (insertEntry key value params.entries).filter (·.1 != signatureField) = _
    rw [split, List.filter_append, List.filter_cons, if_pos (bne_iff_ne.mpr signed)]
  have texts := congrArg String.toList same
  rw [toList_signedText, toList_signedText, entries, entries, if_neg (by simp), if_neg (by simp),
    List.append_left_inj, barred_append, barred_append, barred_cons, barred_cons] at texts
  have values : value.toList ++ '|' :: barred finish = other.toList ++ '|' :: barred finish := by
    simpa using texts
  exact String.toList_inj.mp (List.append_left_inj _ |>.mp values)

/-- **The signed text of a plain request determines every entry that is signed**, also that there is
none: a bar alone has no equals sign before it. -/
theorem get?_eq_of_signedText {first second : Dict String String} (plain : first.IsPlain)
    (plain_other : second.IsPlain) {secret : String}
    (same : signedText first secret = signedText second secret) {key : String}
    (signed : key ≠ signatureField) : first.get? key = second.get? key := by
  have texts := congrArg String.toList same
  rw [toList_signedText, toList_signedText, List.append_left_inj] at texts
  have entries : signedEntries first = signedEntries second := by
    by_cases empty : signedEntries first = [] <;> by_cases other : signedEntries second = []
    · rw [empty, other]
    · rw [if_pos empty, if_neg other] at texts
      have equals : '=' ∈ ([] : List Char) := equals_mem_of_barred plain_other texts.symm
      nomatch equals
    · rw [if_neg empty, if_pos other] at texts
      have equals : '=' ∈ ([] : List Char) := equals_mem_of_barred plain texts
      nomatch equals
    · rw [if_neg empty, if_neg other] at texts
      exact barred_injective plain plain_other texts
  refine Option.ext fun value => ?_
  rw [← mem_signedEntries signed, ← mem_signedEntries signed, entries]

/-- **Plain requests that differ are told apart.** Their signed texts differ for every secret;
hence, unless the digests of the two texts collide, a signature of the one is none of the other. -/
theorem signature_tells_apart {first second : Dict String String} (plain : first.IsPlain)
    (plain_other : second.IsPlain) {key : String} (signed : key ≠ signatureField)
    (differs : first.get? key ≠ second.get? key) (secret : String) :
    signedText first secret ≠ signedText second secret
      ∧ ((Sha256.digest (signedText first secret).toUTF8.toList
            = Sha256.digest (signedText second secret).toUTF8.toList →
          signedText first secret = signedText second secret) →
        ∀ supplied, isSignedBy first secret supplied → isSignedBy second secret supplied = false) := by
  have apart : signedText first secret ≠ signedText second secret :=
    fun same => differs (get?_eq_of_signedText plain plain_other same signed)
  refine ⟨apart, fun collision_free supplied accepted => ?_⟩
  unfold isSignedBy at accepted ⊢
  rw [beq_iff_eq] at accepted
  rw [beq_eq_false_iff_ne, accepted]
  exact fun same => apart (collision_free (Option.some.inj same))

/-- Two orders by an account with a bar in its name, the one of more with the signature of the one
of less. -/
theorem signature_tells_apart_amounts :
    let order (amount : String) : Dict String String :=
      ((Dict.empty.insert "PP_ACCOUNT" "bob|smith").insert "PP_AMOUNT" amount).insert "PP_NOTE" "|"
    isSignedBy (order "1000") "s3cr3t" (sign (order "100") "s3cr3t") = false := by
  intro order
  have digests :
      signatureDigest (order "100") "s3cr3t" ≠ signatureDigest (order "1000") "s3cr3t" := by
    decide +kernel
  have plain : (order "100").IsPlain := by decide
  have plain_other : (order "1000").IsPlain := by decide
  have signed : "PP_AMOUNT" ≠ signatureField := by decide
  obtain ⟨-, rejected⟩ := signature_tells_apart plain plain_other signed (by decide) "s3cr3t"
  exact rejected (fun collision => absurd collision digests) _ (by decide +kernel)

end Paydesk
