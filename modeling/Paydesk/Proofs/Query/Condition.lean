/-
**Conditions as trees.**

Whatever evaluates conditions evaluates a disjunction and a conjunction from their parts, so two
evaluations that agree on the comparisons agree on every tree of them. The comparisons that an
envelope makes are few and of fitting kinds: texts with texts, numbers with numbers, times with
whole seconds, and searches in free text only.

* `Condition.Every`: what holds of every comparison in a tree;
* `Condition.Evaluates`, `Condition.eq_of_every`: **evaluations that agree on the comparisons agree
  on the tree**, by induction on it;
* `FieldValue.IsOf`, `Condition.IsTyped`: values that fit their attribute;
* `Envelope.every_condition`: the comparisons of an envelope's condition;
* `Envelope.isTyped_condition`, `Envelope.isTimeless_condition`: they fit, and without date keys
  none looks at a time.
-/

import Paydesk.Proofs.Store.Pattern
import Paydesk.Proofs.Time.Millis
import Paydesk.Query.Envelope

namespace Paydesk

namespace Condition

/-! ### Trees -/

mutual

/-- Every comparison in a condition is accepted. -/
def Every (accept : Condition → Prop) : Condition → Prop
  | any conditions => EveryOf accept conditions
  | all conditions => EveryOf accept conditions
  | equals field value => accept (equals field value)
  | oneOf field values => accept (oneOf field values)
  | between field least most => accept (between field least most)
  | contains field pattern => accept (contains field pattern)

/-- Every comparison in one of some conditions is accepted. -/
def EveryOf (accept : Condition → Prop) : List Condition → Prop
  | [] => True
  | condition :: rest => Every accept condition ∧ EveryOf accept rest

end

theorem everyOf_iff {accept : Condition → Prop} {conditions : List Condition} :
    EveryOf accept conditions ↔ ∀ condition ∈ conditions, Every accept condition := by
  induction conditions with
  | nil => simp [EveryOf]
  | cons condition rest hypothesis => rw [EveryOf, hypothesis, List.forall_mem_cons]

/-- An evaluation of conditions takes disjunctions and conjunctions apart. -/
structure Evaluates (evaluate : Condition → Bool) : Prop where
  any (conditions : List Condition) :
    evaluate (.any conditions) = (conditions.map evaluate).or
  all (conditions : List Condition) :
    evaluate (.all conditions) = (conditions.map evaluate).and

section Agreement

variable {accept : Condition → Prop} {first second : Condition → Bool}

mutual

/-- **Evaluations that agree on the comparisons agree on the tree.** -/
theorem eq_of_every (left : Evaluates first) (right : Evaluates second)
    (agree : ∀ condition, accept condition → first condition = second condition) :
    (condition : Condition) → Every accept condition → first condition = second condition
  | .any conditions, every => by
    rw [left.any, right.any, map_eq_of_every left right agree conditions every]
  | .all conditions, every => by
    rw [left.all, right.all, map_eq_of_every left right agree conditions every]
  | .equals _ _, accepted => agree _ accepted
  | .oneOf _ _, accepted => agree _ accepted
  | .between _ _ _, accepted => agree _ accepted
  | .contains _ _, accepted => agree _ accepted

theorem map_eq_of_every (left : Evaluates first) (right : Evaluates second)
    (agree : ∀ condition, accept condition → first condition = second condition) :
    (conditions : List Condition) → EveryOf accept conditions →
      conditions.map first = conditions.map second
  | [], _ => rfl
  | condition :: rest, every => by
    rw [List.map_cons, List.map_cons, eq_of_every left right agree condition every.1,
      map_eq_of_every left right agree rest every.2]

end

end Agreement

theorem evaluates_holds (order : Order) : Evaluates fun condition => condition.holds order := by
  constructor
  · intro conditions
    simp only [holds]
    induction conditions with
    | nil => rfl
    | cons condition rest hypothesis => rw [anyHolds, hypothesis, List.map_cons, List.or_cons]
  · intro conditions
    simp only [holds]
    induction conditions with
    | nil => rfl
    | cons condition rest hypothesis => rw [allHold, hypothesis, List.map_cons, List.and_cons]

end Condition

/-! ### Kinds of values -/

/-- What the values of an attribute are. -/
inductive FieldKind where
  | text
  | number
  | time
  deriving DecidableEq

namespace OrderField

def kind : OrderField → FieldKind
  | status => .number
  | createdAt | methodClosedAt => .time
  | _ => .text

/-- The attributes that envelopes search for text in. -/
def freeText : List OrderField :=
  [id, projectName, projectAccount, projectOrderId, packageName, methodName, methodPayerAccount,
    payerPhone, payerEmail]

end OrderField

/-- A value of a kind, or none; a time is one that whole milliseconds name. -/
def FieldValue.IsOf : FieldKind → FieldValue → Prop
  | _, .absent => True
  | .text, .text _ => True
  | .number, .number _ => True
  | .time, .time instant => instant.IsNamed
  | _, _ => False

namespace Condition

/-- A comparison with values of the attribute's kind, or a search in free text. -/
def IsTyped : Condition → Prop
  | equals field value => value.IsOf field.kind
  | oneOf field values => ∀ value ∈ values, value.IsOf field.kind
  | between field least most =>
    (∀ bound ∈ least, bound.IsOf field.kind) ∧ ∀ bound ∈ most, bound.IsOf field.kind
  | contains field pattern => field ∈ OrderField.freeText ∧ Text.IsSearchable pattern
  | any _ | all _ => False

/-- The attribute that a comparison looks at. -/
def field? : Condition → Option OrderField
  | equals field _ | oneOf field _ | between field _ _ | contains field _ => some field
  | any _ | all _ => none

/-- A comparison that looks at no time. -/
def IsTimeless (condition : Condition) : Prop := ∃ field ∈ condition.field?, field.kind ≠ .time

end Condition

/-! ### Conditions of envelopes -/

namespace Envelope

open Condition

variable (envelope : Envelope)

/-- A text is one of the values of an envelope. -/
def Mentions (text : String) : Prop := ∃ entry ∈ envelope.entries, text ∈ entry.2

/-- The operator sees every text of an envelope as it is. -/
def IsSearchable : Prop := ∀ entry ∈ envelope.entries, ∀ text ∈ entry.2, Text.IsSearchable text

instance : Decidable envelope.IsSearchable :=
  inferInstanceAs (Decidable (∀ entry ∈ envelope.entries, ∀ text ∈ entry.2,
    Text.IsSearchable text))

variable {envelope}

theorem mentions_of_first? {key text : String} (found : envelope.first? key = some text) :
    envelope.Mentions text := by
  obtain ⟨values, got, head⟩ := Option.bind_eq_some_iff.mp found
  obtain ⟨entry, inside, rfl⟩ := Option.map_eq_some_iff.mp got
  exact ⟨entry, List.mem_of_find?_eq_some inside, List.mem_of_head? head⟩

theorem every_containsIn {accept : Condition → Prop} {fields : List OrderField} {text : String}
    (each : ∀ field ∈ fields, accept (.contains field text)) :
    (containsIn fields text).Every accept := by
  unfold containsIn
  rw [Every, everyOf_iff]
  intro condition member
  obtain ⟨field, inside, rfl⟩ := List.mem_map.mp member
  exact each field inside

/-- A bound in whole seconds is a time that milliseconds name. -/
theorem isOf_time_of_readSeconds? {text : String} {bound : FieldValue}
    (read : readSeconds? text = some bound) : bound.IsOf .time := by
  obtain ⟨seconds, -, named⟩ := Option.bind_eq_some_iff.mp read
  obtain ⟨instant, found, same⟩ := Option.bind_eq_some_iff.mp named
  cases same
  exact Instant.isNamed_of_ofSeconds? found

/-- The time ranges of an envelope are ranges, between bounds in whole seconds. -/
theorem mem_timeRange {field : OrderField} {leastKey mostKey : String} {condition : Condition}
    (member : condition ∈ envelope.timeRange field leastKey mostKey) :
    ∃ least most, condition = .between field least most
      ∧ (∀ bound ∈ least, bound.IsOf .time) ∧ ∀ bound ∈ most, bound.IsOf .time := by
  have named {text : Option String} {bound : FieldValue}
      (read : bound ∈ text >>= readSeconds?) : bound.IsOf .time := by
    obtain ⟨written, -, found⟩ := Option.bind_eq_some_iff.mp read
    exact isOf_time_of_readSeconds? found
  simp only [timeRange] at member
  split at member
  · exact ⟨_, _, List.mem_singleton.mp member, fun _ => named, fun _ => named⟩
  · nomatch member

/-- The keys of the bounds of time ranges. -/
def dateKeys : List String := ["pm_date_from", "pm_date_to", "project_date_from", "project_date_to"]

/-- The time ranges of an envelope. -/
def timeRanges (envelope : Envelope) : List Condition :=
  envelope.timeRange .methodClosedAt "pm_date_from" "pm_date_to"
    ++ envelope.timeRange .createdAt "project_date_from" "project_date_to"

/-- **The comparisons of an envelope's condition**: some attributes with lists of texts, the status
with a list of codes, the id with a text, searches for texts of the envelope, and its time
ranges. -/
theorem every_condition {accept : Condition → Prop} (accessible : List String)
    (texts : ∀ field ∈ [.projectId, .methodId, .payerCountry], ∀ texts,
      accept (textsCondition field texts))
    (codes : ∀ codes : List Int64,
      accept (.oneOf .status (codes.map fun code => .number code.toInt)))
    (id : ∀ text, accept (.equals .id (.text text)))
    (search : ∀ field ∈ quickFields ++ accountFields, ∀ text, envelope.Mentions text →
      accept (.contains field text))
    (times : ∀ field least most, .between field least most ∈ envelope.timeRanges →
      accept (.between field least most)) :
    (envelope.condition accessible).Every accept := by
  have scope : accept (textsCondition .projectId accessible) := texts _ (by decide) accessible
  have searches {fields : List OrderField} (inside : fields ⊆ quickFields ++ accountFields)
      {text : String} (mentioned : envelope.Mentions text) :
      (containsIn fields text).Every accept :=
    every_containsIn fun field member => search field (inside member) text mentioned
  unfold condition
  cases quick : envelope.first? "quick_filter" with
  | some text =>
    exact ⟨scope, searches (List.subset_append_left _ _) (mentions_of_first? quick), trivial⟩
  | none =>
    refine ⟨scope, everyOf_iff.mpr fun condition member => ?_⟩
    simp only [keyConditions, List.mem_append, Option.mem_toList] at member
    rw [or_assoc, ← List.mem_append] at member
    rcases member with ((((byId | byMethod) | byCountry) | byStatus) | byAccount) | byTime
    · obtain ⟨text, found, rfl⟩ := Option.map_eq_some_iff.mp byId
      unfold idCondition
      split
      · exact id text
      · exact search .id (by decide) text (mentions_of_first? found)
    · obtain ⟨methods, -, rfl⟩ := Option.map_eq_some_iff.mp byMethod
      exact texts _ (by decide) methods
    · obtain ⟨countries, -, rfl⟩ := Option.map_eq_some_iff.mp byCountry
      exact texts _ (by decide) countries
    · cases given : envelope.get? "statuses" with
      | none => rw [given] at byStatus; nomatch byStatus
      | some statuses =>
        rw [given] at byStatus
        simp only [Option.map_some, Option.getD_some, statusCondition] at byStatus
        split at byStatus
        · nomatch byStatus
        · rw [List.mem_singleton.mp byStatus]
          exact codes _
    · obtain ⟨text, found, rfl⟩ := Option.map_eq_some_iff.mp byAccount
      exact searches (List.subset_append_right _ _) (mentions_of_first? found)
    · obtain ⟨field, least, most, rfl⟩ : ∃ field least most, condition = .between field least most := by
        rcases List.mem_append.mp byTime with closed | created
        · obtain ⟨least, most, same, -⟩ := mem_timeRange closed
          exact ⟨_, least, most, same⟩
        · obtain ⟨least, most, same, -⟩ := mem_timeRange created
          exact ⟨_, least, most, same⟩
      exact times field least most byTime

/-- Every comparison of an envelope whose texts can be searched for has values of its attribute's
kind. -/
theorem isTyped_condition (accessible : List String)
    (searchable : envelope.IsSearchable) :
    (envelope.condition accessible).Every IsTyped := by
  refine every_condition accessible ?_ ?_ (fun text => trivial) ?_ ?_
  · intro field member texts value inside
    obtain ⟨text, -, rfl⟩ := List.mem_map.mp inside
    simp only [List.mem_cons, List.not_mem_nil, or_false] at member
    rcases member with rfl | rfl | rfl <;> trivial
  · intro codes value inside
    obtain ⟨code, -, rfl⟩ := List.mem_map.mp inside
    trivial
  · intro field member text mentioned
    have free : ∀ field ∈ quickFields ++ accountFields, field ∈ OrderField.freeText := by decide
    obtain ⟨entry, inside, valued⟩ := mentioned
    exact ⟨free field member, searchable entry inside text valued⟩
  · intro field least most member
    rcases List.mem_append.mp member with closed | created
    · obtain ⟨_, _, same, bounds⟩ := mem_timeRange closed
      cases same
      exact bounds
    · obtain ⟨_, _, same, bounds⟩ := mem_timeRange created
      cases same
      exact bounds

/-- Without date keys there is no time range. -/
theorem timeRanges_eq_nil (undated : ∀ key ∈ dateKeys, envelope.get? key = none) :
    envelope.timeRanges = [] := by
  have missing {key : String} (member : key ∈ dateKeys) : envelope.first? key = none := by
    rw [first?, undated key member]
    rfl
  unfold timeRanges timeRange
  rw [missing (by decide : "pm_date_from" ∈ dateKeys), missing (by decide : "pm_date_to" ∈ dateKeys),
    missing (by decide : "project_date_from" ∈ dateKeys),
    missing (by decide : "project_date_to" ∈ dateKeys)]
  rfl

theorem isTimeless_condition (accessible : List String)
    (undated : ∀ key ∈ dateKeys, envelope.get? key = none) :
    (envelope.condition accessible).Every IsTimeless := by
  have timeless_fields : ∀ field ∈ quickFields ++ accountFields, field.kind ≠ .time := by decide
  refine every_condition accessible ?_ ?_ ?_ ?_ ?_
  · intro field member texts
    have timeless : ∀ field ∈ [OrderField.projectId, .methodId, .payerCountry],
        field.kind ≠ .time := by decide
    exact ⟨field, rfl, timeless field member⟩
  · exact fun codes => ⟨.status, rfl, by decide⟩
  · exact fun text => ⟨.id, rfl, by decide⟩
  · exact fun field member text _ => ⟨field, rfl, timeless_fields field member⟩
  · intro field least most member
    rw [timeRanges_eq_nil undated] at member
    nomatch member

end Envelope

end Paydesk
