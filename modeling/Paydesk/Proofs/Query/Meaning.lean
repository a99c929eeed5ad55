/-
**What queries mean.**

A query asks for orders of accessible projects. As a quick filter it asks for one text and for
nothing else; otherwise each of its keys asks for something of an order, and a key that is missing,
empty where one value is looked for, or without a readable value asks for nothing. Here this is said
of the order itself, without conditions or attributes, and the condition of a query is what its keys
ask for.

* `Text.Occurs`, `Text.contains_fold_iff`: a text occurs in another, whatever the case of letters;
* `Envelope.bound?`, `Envelope.Within`: a time between the bounds that two keys set;
* `Envelope.Asks`: **what the keys of a query ask for**, one field for every key or pair of keys;
* `Envelope.Asks.of_extends`: a query with more keys asks for no less;
* `holds_all_iff` and its kin: what conditions hold, one lemma for every form;
* `query_means`: **an order meets the condition of a query exactly where it is asked for**.
-/

import Paydesk.Proofs.Query.Condition
import Paydesk.Proofs.Query.Sort
import Paydesk.Proofs.Store.Refinement

namespace Paydesk

/-! ### Texts in texts -/

namespace Text

/-- A pattern occurs in a text, whatever the case of their letters. -/
def Occurs (pattern text : String) : Prop := (fold pattern).toList <:+: (fold text).toList

/-- A pattern occurs in one of some texts, of which any may be absent. -/
def OccursInOne (pattern : String) (texts : List (Option String)) : Prop :=
  ∃ text, some text ∈ texts ∧ Occurs pattern text

theorem occursIn_iff {pattern chars : List Char} : occursIn pattern chars ↔ pattern <:+: chars := by
  induction chars with
  | nil => rw [occursIn, List.isEmpty_iff, List.infix_nil]
  | cons char rest hypothesis =>
    rw [occursIn, Bool.or_eq_true, hypothesis, List.isPrefixOf_iff_prefix, List.infix_cons_iff]

theorem contains_fold_iff {pattern text : String} :
    contains (fold text) (fold pattern) ↔ Occurs pattern text :=
  occursIn_iff

end Text

/-! ### What is asked of an order -/

namespace Order

/-- The texts that a quick filter looks at. -/
def quickTexts (order : Order) : List (Option String) :=
  [some order.project.name, some order.projectAccount, order.projectOrderId,
    order.package.map (·.name), order.method.map (·.name), some order.id]

/-- The texts that an account is looked for in. -/
def accountTexts (order : Order) : List (Option String) :=
  [some order.projectAccount, order.methodPayerAccount, order.payer.phone, order.payer.email]

end Order

/-- The numbers among some texts. -/
def readCodes (texts : List String) : List Int :=
  texts.filterMap fun text => (Text.readInt64? (Text.trimBlank text)).map (·.toInt)

namespace Envelope

variable {envelope wider : Envelope} {order : Order} {accessible : List String}

/-- The bound that a key sets: its first value, if that is a number of seconds since 1970 that the
calendar has a place for. -/
def bound? (envelope : Envelope) (key : String) : Option Instant := do
  let text ← envelope.first? key
  let seconds ← Text.readInt64? (Text.trimBlank text)
  Instant.ofSeconds? seconds.toInt

/-- A time lies between the bounds that two keys set, both included. A time that is absent does so
only if neither key sets a bound. -/
structure Within (envelope : Envelope) (leastKey mostKey : String) (time : Option Instant) :
    Prop where
  least : ∀ bound ∈ envelope.bound? leastKey, ∃ instant ∈ time, bound.atMost instant
  most : ∀ bound ∈ envelope.bound? mostKey, ∃ instant ∈ time, instant.atMost bound

/-- **What the keys of a query ask for.** -/
structure Asks (envelope : Envelope) (order : Order) : Prop where
  /-- An id in full, or a part of one. -/
  id : ∀ id ∈ envelope.first? "id",
    if isCanonicalId id then order.id = id else Text.Occurs id order.id
  /-- One of some payment methods. -/
  method : ∀ ids ∈ envelope.get? "payment_methods", ∃ method ∈ order.method, method.id ∈ ids
  /-- One of some countries. -/
  country : ∀ countries ∈ envelope.get? "countries", ∃ country ∈ order.payer.country,
    country ∈ countries
  /-- One of some statuses, unless no text is a number. -/
  status : ∀ texts ∈ envelope.get? "statuses",
    readCodes texts = [] ∨ order.status.code ∈ readCodes texts
  account : ∀ account ∈ envelope.first? "account", Text.OccursInOne account order.accountTexts
  closed : envelope.Within "pm_date_from" "pm_date_to" order.methodClosedAt
  created : envelope.Within "project_date_from" "project_date_to" (some order.createdAt)

/-! ### More keys -/

/-- An envelope has at least the keys of another, with the same values. -/
def Extends (wider envelope : Envelope) : Prop :=
  ∀ key, ∀ values ∈ envelope.get? key, values ∈ wider.get? key

theorem Extends.first? (further : wider.Extends envelope) {key text : String}
    (found : text ∈ envelope.first? key) : text ∈ wider.first? key := by
  obtain ⟨values, got, head⟩ := Option.bind_eq_some_iff.mp found
  exact Option.bind_eq_some_iff.mpr ⟨values, further key values got, head⟩

theorem Extends.bound? (further : wider.Extends envelope) {key : String} {bound : Instant}
    (set : bound ∈ envelope.bound? key) : bound ∈ wider.bound? key := by
  obtain ⟨text, found, read⟩ := Option.bind_eq_some_iff.mp set
  exact Option.bind_eq_some_iff.mpr ⟨text, further.first? found, read⟩

theorem Within.of_extends {leastKey mostKey : String} {time : Option Instant}
    (within : wider.Within leastKey mostKey time) (further : wider.Extends envelope) :
    envelope.Within leastKey mostKey time :=
  ⟨fun bound set => within.least bound (further.bound? set),
    fun bound set => within.most bound (further.bound? set)⟩

/-- **More keys ask for no less.** -/
theorem Asks.of_extends (asks : wider.Asks order) (further : wider.Extends envelope) :
    envelope.Asks order where
  id id found := asks.id id (further.first? found)
  method ids got := asks.method ids (further _ ids got)
  country countries got := asks.country countries (further _ countries got)
  status texts got := asks.status texts (further _ texts got)
  account account found := asks.account account (further.first? found)
  closed := asks.closed.of_extends further
  created := asks.created.of_extends further

/-- A key that was absent leaves the others as they were. -/
theorem extends_insert {key : String} (absent : envelope.get? key = none) (values : List String) :
    Extends (envelope.insert key values) envelope := by
  intro other found got
  have apart : other ≠ key := by
    rintro rfl
    cases absent.symm.trans got
  exact (Dict.get?_insert_of_ne envelope apart values).trans got

end Envelope

/-! ### What conditions hold -/

@[simp] theorem FieldValue.text?_ofText? (text : Option String) : (ofText? text).text? = text := by
  cases text <;> rfl

@[simp] theorem FieldValue.text?_text (content : String) : (text content).text? = some content :=
  rfl

namespace Condition

variable {order : Order} {field : OrderField} {conditions : List Condition}

theorem holds_all_iff :
    (all conditions).holds order ↔ ∀ condition ∈ conditions, condition.holds order := by
  rw [(evaluates_holds order).all]
  simp [List.and]

theorem holds_any_iff :
    (any conditions).holds order ↔ ∃ condition ∈ conditions, condition.holds order := by
  rw [(evaluates_holds order).any]
  simp [List.or]

theorem holds_contains_iff {pattern : String} : (contains field pattern).holds order ↔
    ∃ text ∈ (field.valueOf order).text?, Text.Occurs pattern text := by
  rw [holds]
  cases (field.valueOf order).text? with
  | none => simp
  | some text => simp [Text.contains_fold_iff]

theorem atLeast_time_iff {instant : Instant} {bound : Option Instant} :
    atLeast (.time instant) (bound.map .time) ↔ ∀ limit ∈ bound, limit.atMost instant := by
  cases bound with
  | none => simp [atLeast]
  | some limit =>
    have swapped : instant.order limit = (limit.order instant).swap := by
      change compare instant limit = (compare limit instant).swap
      exact Std.OrientedOrd.eq_swap
    simp only [atLeast, Option.map_some, FieldValue.order?, swapped, Instant.atMost, Option.mem_def,
      Option.some.injEq, forall_eq']
    cases limit.order instant <;> decide

theorem atMost_time_iff {instant : Instant} {bound : Option Instant} :
    atMost (.time instant) (bound.map .time) ↔ ∀ limit ∈ bound, instant.atMost limit := by
  cases bound with
  | none => simp [atMost]
  | some limit =>
    simp only [atMost, Option.map_some, FieldValue.order?, Instant.atMost, Option.mem_def,
      Option.some.injEq, forall_eq']
    cases instant.order limit <;> decide

/-- A range holds of a time between its bounds. -/
theorem holds_between_iff {time least most : Option Instant}
    (value : field.valueOf order = (time.map .time).getD .absent) :
    (between field (least.map .time) (most.map .time)).holds order ↔
      ∃ instant ∈ time, (∀ bound ∈ least, bound.atMost instant) ∧
        ∀ bound ∈ most, instant.atMost bound := by
  rw [holds, value]
  cases time with
  | none => simp
  | some instant => simp [atLeast_time_iff, atMost_time_iff]

end Condition

namespace Envelope

variable {envelope : Envelope} {order : Order}

/-- A list of texts holds of an order with one of them. -/
theorem holds_textsCondition_iff {field : OrderField} {texts : List String} {value : Option String}
    (valued : field.valueOf order = .ofText? value) :
    (textsCondition field texts).holds order ↔ ∃ text ∈ value, text ∈ texts := by
  rw [textsCondition, Condition.holds, valued]
  cases value with
  | none => simp [FieldValue.ofText?]
  | some text => simp [FieldValue.ofText?]

/-- A text that is looked for in several attributes is looked for in their texts. -/
theorem holds_containsIn_iff {fields : List OrderField} {texts : List (Option String)}
    (valued : fields.map (fun field => (field.valueOf order).text?) = texts) {pattern : String} :
    (containsIn fields pattern).holds order ↔ Text.OccursInOne pattern texts := by
  unfold containsIn Text.OccursInOne
  rw [Condition.holds_any_iff, ← valued]
  constructor
  · rintro ⟨_, member, found⟩
    obtain ⟨field, inside, rfl⟩ := List.mem_map.mp member
    obtain ⟨text, has, occurs⟩ := Condition.holds_contains_iff.mp found
    exact ⟨text, List.mem_map.mpr ⟨field, inside, has⟩, occurs⟩
  · rintro ⟨text, member, occurs⟩
    obtain ⟨field, inside, has⟩ := List.mem_map.mp member
    exact ⟨_, List.mem_map.mpr ⟨field, inside, rfl⟩,
      Condition.holds_contains_iff.mpr ⟨text, has, occurs⟩⟩

theorem texts_quickFields :
    quickFields.map (fun field => (field.valueOf order).text?) = order.quickTexts := by
  simp [quickFields, OrderField.valueOf, Order.quickTexts]

theorem texts_accountFields :
    accountFields.map (fun field => (field.valueOf order).text?) = order.accountTexts := by
  simp [accountFields, OrderField.valueOf, Order.accountTexts]

theorem holds_idCondition_iff {id : String} : (idCondition id).holds order ↔
    if isCanonicalId id then order.id = id else Text.Occurs id order.id := by
  unfold idCondition
  split
  · simp [Condition.holds, OrderField.valueOf]
  · rw [Condition.holds_contains_iff]
    simp [OrderField.valueOf]

theorem holds_statusCondition_iff {texts : List String} :
    (∀ condition ∈ statusCondition texts, condition.holds order) ↔
      readCodes texts = [] ∨ order.status.code ∈ readCodes texts := by
  have codes_eq : readCodes texts =
      (texts.filterMap fun text => Text.readInt64? (Text.trimBlank text)).map (·.toInt) := by
    rw [List.map_filterMap]
    rfl
  simp only [statusCondition, codes_eq]
  split
  · rename_i empty
    rw [List.isEmpty_iff] at empty
    simp [empty]
  · rename_i nonempty
    rw [List.isEmpty_iff] at nonempty
    simp [Condition.holds, OrderField.valueOf, nonempty]

/-- The bounds of a range are those that its keys set. -/
theorem first?_bind_readSeconds? (key : String) :
    envelope.first? key >>= readSeconds? = (envelope.bound? key).map .time := by
  unfold bound? readSeconds?
  simp [Option.map_eq_bind, Option.bind_assoc]

/-- Where a bound is set, only a time that is there lies within the bounds. -/
theorem within_iff_of_bounded {leastKey mostKey : String} {time : Option Instant}
    (bounded : (envelope.bound? leastKey).isSome ∨ (envelope.bound? mostKey).isSome) :
    envelope.Within leastKey mostKey time ↔
      ∃ instant ∈ time, (∀ bound ∈ envelope.bound? leastKey, bound.atMost instant) ∧
        ∀ bound ∈ envelope.bound? mostKey, instant.atMost bound := by
  constructor
  · intro within
    obtain ⟨instant, rfl⟩ : ∃ instant, time = some instant := by
      rcases bounded with set | set
      · obtain ⟨bound, found⟩ := Option.isSome_iff_exists.mp set
        obtain ⟨instant, inside, -⟩ := within.least bound found
        exact ⟨instant, inside⟩
      · obtain ⟨bound, found⟩ := Option.isSome_iff_exists.mp set
        obtain ⟨instant, inside, -⟩ := within.most bound found
        exact ⟨instant, inside⟩
    refine ⟨instant, rfl, fun bound set => ?_, fun bound set => ?_⟩
    · obtain ⟨_, ⟨⟩, above⟩ := within.least bound set
      exact above
    · obtain ⟨_, ⟨⟩, below⟩ := within.most bound set
      exact below
  · rintro ⟨instant, inside, above, below⟩
    exact ⟨fun bound set => ⟨instant, inside, above bound set⟩,
      fun bound set => ⟨instant, inside, below bound set⟩⟩

/-- Where no bound is set, any time will do, and none as well. -/
theorem within_of_unbounded {leastKey mostKey : String} (time : Option Instant)
    (no_least : envelope.bound? leastKey = none) (no_most : envelope.bound? mostKey = none) :
    envelope.Within leastKey mostKey time := by
  constructor
  · intro bound set
    cases no_least.symm.trans set
  · intro bound set
    cases no_most.symm.trans set

theorem holds_timeRange_iff {field : OrderField} {leastKey mostKey : String}
    {time : Option Instant} (value : field.valueOf order = (time.map .time).getD .absent) :
    (∀ condition ∈ envelope.timeRange field leastKey mostKey, condition.holds order) ↔
      envelope.Within leastKey mostKey time := by
  simp only [timeRange, first?_bind_readSeconds?, Option.isSome_map, Bool.or_eq_true]
  split
  · rename_i bounded
    rw [List.forall_mem_singleton, Condition.holds_between_iff value,
      within_iff_of_bounded bounded]
  · rename_i unbounded
    rw [not_or, Option.not_isSome_iff_eq_none, Option.not_isSome_iff_eq_none] at unbounded
    have within : envelope.Within leastKey mostKey time :=
      within_of_unbounded time unbounded.1 unbounded.2
    exact ⟨fun _ => within, fun _ => List.forall_mem_nil _⟩

theorem forall_mem_toList_map {α β : Type} {p : β → Prop} {change : α → β} {value : Option α} :
    (∀ result ∈ (value.map change).toList, p result) ↔ ∀ found ∈ value, p (change found) := by
  cases value <;> simp

/-- **The conditions of the keys** hold where the keys ask for the order. -/
theorem holds_keyConditions_iff :
    (∀ condition ∈ envelope.keyConditions, condition.holds order) ↔ envelope.Asks order := by
  have method (ids : List String) : (textsCondition .methodId ids).holds order ↔
      ∃ method ∈ order.method, method.id ∈ ids :=
    (holds_textsCondition_iff rfl).trans (by simp)
  have country (countries : List String) : (textsCondition .payerCountry countries).holds order ↔
      ∃ country ∈ order.payer.country, country ∈ countries :=
    holds_textsCondition_iff rfl
  have status : (∀ condition ∈ ((envelope.get? "statuses").map statusCondition).getD [],
      condition.holds order) ↔ ∀ texts ∈ envelope.get? "statuses",
        readCodes texts = [] ∨ order.status.code ∈ readCodes texts := by
    cases envelope.get? "statuses" with
    | none => simp
    | some texts => simp [holds_statusCondition_iff]
  have closed : (∀ condition ∈ envelope.timeRange .methodClosedAt "pm_date_from" "pm_date_to",
      condition.holds order) ↔ envelope.Within "pm_date_from" "pm_date_to" order.methodClosedAt :=
    holds_timeRange_iff (by rw [OrderField.valueOf]; cases order.methodClosedAt <;> rfl)
  have created : (∀ condition ∈ envelope.timeRange .createdAt "project_date_from" "project_date_to",
      condition.holds order) ↔
        envelope.Within "project_date_from" "project_date_to" (some order.createdAt) :=
    holds_timeRange_iff rfl
  simp only [keyConditions, List.forall_mem_append, forall_mem_toList_map, holds_idCondition_iff,
    method, country, status, holds_containsIn_iff texts_accountFields, closed, created, and_assoc]
  constructor
  · rintro ⟨id, method, country, status, account, closed, created⟩
    exact ⟨id, method, country, status, account, closed, created⟩
  · rintro ⟨id, method, country, status, account, closed, created⟩
    exact ⟨id, method, country, status, account, closed, created⟩

/-- **What a query means**: its quick text, or else what its keys ask for. -/
def Means (envelope : Envelope) (order : Order) : Prop :=
  match envelope.first? "quick_filter" with
  | some text => Text.OccursInOne text order.quickTexts
  | none => envelope.Asks order

theorem holds_condition_iff {accessible : List String} :
    (envelope.condition accessible).holds order ↔
      order.project.id ∈ accessible ∧ envelope.Means order := by
  have valued : OrderField.projectId.valueOf order = .ofText? (some order.project.id) := rfl
  have scope : (textsCondition .projectId accessible).holds order ↔
      order.project.id ∈ accessible :=
    (holds_textsCondition_iff valued).trans (by simp)
  unfold condition Means
  cases envelope.first? "quick_filter" with
  | some text =>
    simp only [Condition.holds_all_iff, List.forall_mem_cons, List.not_mem_nil, false_implies,
      implies_true, and_true, scope, holds_containsIn_iff texts_quickFields]
  | none =>
    simp only [Condition.holds_all_iff, List.forall_mem_cons, scope, holds_keyConditions_iff]

/-- A key of its own does not turn a query into a quick filter, and narrows one that is none. -/
theorem Means.of_insert {key : String} {values : List String} (apart : key ≠ "quick_filter")
    (absent : envelope.get? key = none)
    (means : Means (envelope.insert key values) order) : envelope.Means order := by
  have same : first? (envelope.insert key values) "quick_filter"
      = envelope.first? "quick_filter" := by
    unfold first?
    rw [Dict.get?_insert_of_ne envelope apart.symm values]
  unfold Means at means ⊢
  rw [same] at means
  cases quick : envelope.first? "quick_filter" with
  | some text =>
    rw [quick] at means
    exact means
  | none =>
    rw [quick] at means
    exact means.of_extends (extends_insert absent values)

end Envelope

/-- A page holds orders of the store that meet the condition. -/
theorem MemoryStore.mem_search {store : MemoryStore} {query : OrderQuery} {order : Order}
    (member : order ∈ store.search query) :
    order ∈ store.orders ∧ query.condition.holds order := by
  have sorted := List.mem_of_mem_drop (List.mem_of_mem_take member)
  exact List.mem_filter.mp ((query.sorted_perm_self _).mem_iff.mp sorted)

/-- **What queries mean.** For every query, every list of accessible projects and every order:

* the order meets the condition of the query if and only if its project is accessible and the query
  means it: by the quick text if there is one, else by everything that its keys ask for;
* a key that the query did not have, other than the quick filter, never lets it find an order that
  it did not find before;
* no page of a store shows an order of a project that is not accessible. -/
theorem query_means (envelope : Envelope) (accessible : List String) (order : Order) :
    ((envelope.condition accessible).holds order ↔
      order.project.id ∈ accessible ∧
        match envelope.first? "quick_filter" with
        | some text => Text.OccursInOne text order.quickTexts
        | none => envelope.Asks order)
    ∧ (∀ key values, key ≠ "quick_filter" → envelope.get? key = none →
      (Envelope.condition (envelope.insert key values) accessible).holds order →
        (envelope.condition accessible).holds order)
    ∧ ∀ (store : MemoryStore) (query : OrderQuery),
      order ∈ store.search { query with condition := envelope.condition accessible } →
        order.project.id ∈ accessible := by
  refine ⟨Envelope.holds_condition_iff, fun key values apart absent holds => ?_,
    fun store query member => ?_⟩
  · obtain ⟨inside, means⟩ := Envelope.holds_condition_iff.mp holds
    exact Envelope.holds_condition_iff.mpr ⟨inside, means.of_insert apart absent⟩
  · exact (Envelope.holds_condition_iff.mp (MemoryStore.mem_search member).2).1

/-- The order of one payer, in a store of its own. -/
def onlyTenEuros : MemoryStore := { orders := [tenEuros], distinct := by decide }

/-- An account in capitals finds it, with and without a list of statuses, one of them a number. -/
theorem query_means_account :
    let envelope : Envelope := Dict.empty.insert "account" ["PAYER"]
    let narrower : Envelope := envelope.insert "statuses" [" 0", "open"]
    narrower.Asks tenEuros ∧ (envelope.condition ["shop"]).holds tenEuros
      ∧ tenEuros ∈ onlyTenEuros.search { condition := envelope.condition ["shop"] }
      ∧ tenEuros.project.id ∈ ["shop"] := by
  intro envelope narrower
  have holds : (narrower.condition ["shop"]).holds tenEuros := by decide +kernel
  have found : tenEuros ∈ onlyTenEuros.search { condition := envelope.condition ["shop"] } := by
    decide +kernel
  obtain ⟨meaning, -, -⟩ := query_means narrower ["shop"] tenEuros
  obtain ⟨-, narrows, inside⟩ := query_means envelope ["shop"] tenEuros
  exact ⟨(meaning.mp holds).2, narrows "statuses" _ (by decide) (by decide +kernel) holds, found,
    inside onlyTenEuros { condition := .all [] } found⟩

end Paydesk
