/-
**The two modes of queries.**

A query with a quick text is decided by that text and by nothing else; a query without the quick key
never looks for a quick text. In between lies the quick key without a value: it counts as a quick
filter, and yet all other keys stay in force.

* `Envelope.only`, `Envelope.without`: the entry of one key, and all the others;
* `Envelope.condition_congr`: the condition of a query is decided by its quick text;
* `Envelope.keyConditions_without_quick`: the other keys do not look at the quick one;
* `Envelope.any_mem_keyConditions`: the only alternatives that keys ask for are those of an account;
* `query_modes`: **what the quick key does, with a text, without one, and if it is missing**;
* `emptyQuick_keeps_account`: **a quick filter that an account narrows**.
-/

import Paydesk.Proofs.Dict
import Paydesk.Proofs.Query.Meaning

namespace Paydesk

namespace Envelope

variable {envelope other : Envelope} {accessible : List String}

/-! ### One key and the others -/

/-- The entry of one key. -/
def only (envelope : Envelope) (key : String) : Envelope :=
  envelope.filter fun found _ => found == key

/-- All entries but that of one key. -/
def without (envelope : Envelope) (key : String) : Envelope :=
  envelope.filter fun found _ => found != key

theorem get?_only_self (key : String) : (envelope.only key).get? key = envelope.get? key := by
  unfold only
  exact Dict.get?_filter_of_pos (fun _ => beq_self_eq_true key) envelope

theorem get?_without_self (key : String) : (envelope.without key).get? key = none := by
  unfold without
  exact Dict.get?_filter_of_neg (fun _ => bne_self_eq_false key) envelope

theorem get?_without_of_ne {key found : String} (apart : found ≠ key) :
    (envelope.without key).get? found = envelope.get? found := by
  have kept (values : List String) : (found != key) = true := bne_iff_ne.mpr apart
  exact Dict.get?_filter_of_pos kept envelope

theorem first?_only_self (key : String) : (envelope.only key).first? key = envelope.first? key := by
  rw [first?, first?, get?_only_self]

theorem first?_without_of_ne {key found : String} (apart : found ≠ key) :
    (envelope.without key).first? found = envelope.first? found := by
  rw [first?, first?, get?_without_of_ne apart]

theorem first?_eq_none_of_not_quick (not_quick : envelope.isQuick = false) :
    envelope.first? "quick_filter" = none := by
  have absent : envelope.get? "quick_filter" = none := Option.not_isSome_iff_eq_none.mp (by
    rw [Bool.not_eq_true]
    exact not_quick)
  rw [first?, absent]
  rfl

/-! ### What decides the condition -/

/-- **A quick text decides alone**: queries that share it have one condition. -/
theorem condition_congr (quick : (envelope.first? "quick_filter").isSome)
    (same : other.first? "quick_filter" = envelope.first? "quick_filter") :
    other.condition accessible = envelope.condition accessible := by
  obtain ⟨text, found⟩ := Option.isSome_iff_exists.mp quick
  unfold condition
  rw [same, found]

theorem timeRange_without {key leastKey mostKey : String} (field : OrderField)
    (least_apart : leastKey ≠ key) (most_apart : mostKey ≠ key) :
    (envelope.without key).timeRange field leastKey mostKey
      = envelope.timeRange field leastKey mostKey := by
  unfold timeRange
  rw [first?_without_of_ne least_apart, first?_without_of_ne most_apart]

/-- The other keys do not look at the quick one. -/
theorem keyConditions_without_quick :
    (envelope.without "quick_filter").keyConditions = envelope.keyConditions := by
  unfold keyConditions
  rw [first?_without_of_ne (by decide : "id" ≠ "quick_filter"),
    first?_without_of_ne (by decide : "account" ≠ "quick_filter"),
    get?_without_of_ne (by decide : "payment_methods" ≠ "quick_filter"),
    get?_without_of_ne (by decide : "countries" ≠ "quick_filter"),
    get?_without_of_ne (by decide : "statuses" ≠ "quick_filter"),
    timeRange_without _ (by decide) (by decide), timeRange_without _ (by decide) (by decide)]

theorem condition_eq_keyConditions (none_quick : envelope.first? "quick_filter" = none) :
    envelope.condition accessible =
      .all (textsCondition .projectId accessible :: envelope.keyConditions) := by
  unfold condition
  rw [none_quick]

/-- A quick key without a text is as good as missing. -/
theorem condition_without_quick (none_quick : envelope.first? "quick_filter" = none) :
    (envelope.without "quick_filter").condition accessible = envelope.condition accessible := by
  have none_left : (envelope.without "quick_filter").first? "quick_filter" = none := by
    rw [first?, get?_without_self]
    rfl
  rw [condition_eq_keyConditions none_left, condition_eq_keyConditions none_quick,
    keyConditions_without_quick]

/-! ### No quick clause -/

/-- The only alternatives that keys ask for are the attributes of an account. -/
theorem any_mem_keyConditions {conditions : List Condition}
    (member : .any conditions ∈ envelope.keyConditions) :
    ∃ account, .any conditions = containsIn accountFields account := by
  have none_in_range (field : OrderField) (leastKey mostKey : String) :
      .any conditions ∉ envelope.timeRange field leastKey mostKey := by
    intro inside
    simp only [timeRange] at inside
    split at inside
    · exact Condition.noConfusion (List.mem_singleton.mp inside)
    · exact List.not_mem_nil inside
  have none_in_statuses (texts : List String) : .any conditions ∉ statusCondition texts := by
    intro inside
    simp only [statusCondition] at inside
    split at inside
    · exact List.not_mem_nil inside
    · exact Condition.noConfusion (List.mem_singleton.mp inside)
  simp only [keyConditions, List.mem_append, none_in_range, or_false] at member
  rcases member with (((id | method) | country) | status) | account
  · obtain ⟨id, -, same⟩ := Option.map_eq_some_iff.mp (Option.mem_toList.mp id)
    unfold idCondition at same
    split at same <;> cases same
  · obtain ⟨ids, -, same⟩ := Option.map_eq_some_iff.mp (Option.mem_toList.mp method)
    cases same
  · obtain ⟨countries, -, same⟩ := Option.map_eq_some_iff.mp (Option.mem_toList.mp country)
    cases same
  · cases asked : envelope.get? "statuses" with
    | none =>
      rw [asked] at status
      cases status
    | some texts =>
      rw [asked] at status
      exact absurd status (none_in_statuses texts)
  · obtain ⟨account, -, same⟩ := Option.map_eq_some_iff.mp (Option.mem_toList.mp account)
    exact ⟨account, same.symm⟩

/-- A quick text and an account are looked for in different attributes. -/
theorem containsIn_quickFields_ne (text account : String) :
    containsIn quickFields text ≠ containsIn accountFields account := by
  intro same
  have lengths := congrArg List.length (Condition.any.inj same)
  rw [List.length_map, List.length_map] at lengths
  exact absurd lengths (by decide)

theorem quick_not_mem_clauses (text : String) :
    containsIn quickFields text ∉ textsCondition .projectId accessible :: envelope.keyConditions := by
  intro member
  rcases List.mem_cons.mp member with scope | inside
  · cases scope
  · obtain ⟨account, same⟩ := any_mem_keyConditions inside
    exact containsIn_quickFields_ne text account same

end Envelope

/-! ### The modes -/

/-- **The two modes of queries.** For every query and every list of accessible projects:

* with a quick text, the query is a quick filter, its condition is that of its quick entry alone,
  and it finds the orders of accessible projects in which the text occurs;
* with a quick key that has no value, the query is a quick filter as well, but its condition is that
  of all its other keys, as if the quick one were missing;
* without the quick key, no clause of its condition looks for a quick text. -/
theorem query_modes (envelope : Envelope) (accessible : List String) :
    (∀ text ∈ envelope.first? "quick_filter",
      envelope.isQuick
      ∧ envelope.condition accessible = (envelope.only "quick_filter").condition accessible
      ∧ ∀ order, (envelope.condition accessible).holds order ↔
          order.project.id ∈ accessible ∧ Text.OccursInOne text order.quickTexts)
    ∧ (envelope.get? "quick_filter" = some [] →
      envelope.isQuick
      ∧ envelope.condition accessible = (envelope.without "quick_filter").condition accessible)
    ∧ (envelope.isQuick = false → ∃ clauses,
      envelope.condition accessible = .all clauses
      ∧ ∀ text, Envelope.containsIn Envelope.quickFields text ∉ clauses) := by
  refine ⟨fun text found => ⟨?_, ?_, fun order => ?_⟩, fun emptied => ⟨?_, ?_⟩, fun missing => ?_⟩
  · obtain ⟨values, got, -⟩ := Option.bind_eq_some_iff.mp found
    show (envelope.get? "quick_filter").isSome
    rw [got]
    rfl
  · apply Envelope.condition_congr
    · rw [Envelope.first?_only_self, found]
      rfl
    · exact (Envelope.first?_only_self "quick_filter").symm
  · rw [Envelope.holds_condition_iff, Envelope.Means, found]
  · show (envelope.get? "quick_filter").isSome
    rw [emptied]
    rfl
  · have none_quick : envelope.first? "quick_filter" = none := by
      rw [Envelope.first?, emptied]
      rfl
    exact (Envelope.condition_without_quick none_quick).symm
  · have none_quick := Envelope.first?_eq_none_of_not_quick missing
    exact ⟨_, Envelope.condition_eq_keyConditions none_quick, Envelope.quick_not_mem_clauses⟩

/-- A quick text beside an account that no order has, a quick key without a text, and no quick
key. -/
theorem query_modes_tenEuros :
    let quick : Envelope := (Dict.empty.insert "quick_filter" ["payer"]).insert "account" ["nobody"]
    let emptied : Envelope := Dict.empty.insert "quick_filter" []
    let plain : Envelope := Dict.empty.insert "account" ["payer"]
    (quick.condition ["shop"]).holds tenEuros
      ∧ emptied.condition ["shop"] = (emptied.without "quick_filter").condition ["shop"]
      ∧ ∃ clauses, plain.condition ["shop"] = .all clauses
          ∧ ∀ text, Envelope.containsIn Envelope.quickFields text ∉ clauses := by
  intro quick emptied plain
  obtain ⟨decides, -, -⟩ := query_modes quick ["shop"]
  obtain ⟨-, leaves, -⟩ := query_modes emptied ["shop"]
  obtain ⟨-, -, lacks⟩ := query_modes plain ["shop"]
  have found : "payer" ∈ quick.first? "quick_filter" := by decide
  have holds : ((quick.only "quick_filter").condition ["shop"]).holds tenEuros := by
    decide +kernel
  obtain ⟨-, alone, -⟩ := decides "payer" found
  refine ⟨?_, (leaves (by decide)).2, lacks (by decide)⟩
  rw [alone]
  exact holds

/-- **A quick filter that an account narrows.** The quick key has no value, so the account decides:
the order that the quick entry alone would find is not found. -/
theorem emptyQuick_keeps_account :
    let envelope : Envelope := (Dict.empty.insert "quick_filter" []).insert "account" ["nobody"]
    envelope.isQuick
      ∧ ((envelope.only "quick_filter").condition ["shop"]).holds tenEuros
      ∧ ¬ (envelope.condition ["shop"]).holds tenEuros := by
  decide +kernel

end Paydesk
