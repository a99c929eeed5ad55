/-
**Rows are selected as orders are.**

The columns of a row hold the attributes of its order, with times in whole milliseconds. A
comparison with nothing is unknown and an absent attribute meets no comparison, so for values of the
attribute's kind a row is selected exactly where the order, seen in milliseconds, is found.

* `Order.inMillis`: an order with its times in whole milliseconds;
* `OrderRow.Keeps`: a row was made of an order, whatever version its document has;
* `Keeps.cell_eq`, `Keeps.searchText?_eq`: the columns of an attribute;
* `FieldValue.order?_cell`: values of one kind compare as their cells;
* `Truth.isYes_and`, `Truth.isYes_or`: what is known to be so, as two truth values see it;
* `OrderRow.isYes_check`: **a row is selected by a condition exactly where its order meets it**.
-/

import Paydesk.Proofs.Query.Condition
import Paydesk.Proofs.Store.Refinement

namespace Paydesk

/-! ### Times in whole milliseconds -/

/-- A value with a time in whole milliseconds. -/
def FieldValue.inMillis : FieldValue → FieldValue
  | time instant => time instant.inMillis
  | value => value

namespace Order

/-- An order with the times that queries look at in whole milliseconds. -/
def inMillis (order : Order) : Order :=
  { order with
    createdAt := order.createdAt.inMillis
    methodClosedAt := order.methodClosedAt.map Instant.inMillis }

theorem valueOf_inMillis (order : Order) (field : OrderField) :
    field.valueOf order.inMillis = (field.valueOf order).inMillis := by
  have unchanged (text : Option String) :
      FieldValue.ofText? text = (FieldValue.ofText? text).inMillis := by
    cases text <;> rfl
  cases field with
  | methodClosedAt =>
    unfold inMillis OrderField.valueOf
    cases order.methodClosedAt <;> rfl
  | projectOrderId | packageName | methodId | methodName | methodPayerAccount | payerCountry
  | payerPhone | payerEmail => exact unchanged _
  | id | projectId | projectName | projectAccount | status | createdAt => rfl

/-- In milliseconds the values of an attribute are of its kind. -/
theorem isOf_valueOf_inMillis (order : Order) (field : OrderField) :
    (field.valueOf order.inMillis).IsOf field.kind := by
  have text_or_absent (text : Option String) : (FieldValue.ofText? text).IsOf .text := by
    cases text <;> trivial
  cases field with
  | methodClosedAt =>
    unfold inMillis OrderField.valueOf
    cases order.methodClosedAt with
    | none => trivial
    | some closed => exact closed.isNamed_inMillis
  | createdAt => exact order.createdAt.isNamed_inMillis
  | projectOrderId | packageName | methodId | methodName | methodPayerAccount | payerCountry
  | payerPhone | payerEmail => exact text_or_absent _
  | id | projectId | projectName | projectAccount | status => trivial

/-- Every text of an order that envelopes search in is seen by the operator as it is. -/
def IsSearchable (order : Order) : Prop :=
  ∀ field ∈ OrderField.freeText, ∀ content ∈ (field.valueOf order).text?,
    Text.IsSearchable content

instance : DecidablePred IsSearchable := fun order =>
  inferInstanceAs (Decidable (∀ field ∈ OrderField.freeText,
    ∀ content ∈ (field.valueOf order).text?, Text.IsSearchable content))

end Order

/-! ### Cells -/

theorem FieldValue.cell_inMillis (value : FieldValue) : value.inMillis.cell = value.cell := by
  cases value with
  | time instant => exact congrArg Cell.number instant.toMillis_inMillis
  | absent | text | number => rfl

theorem FieldValue.text?_inMillis (value : FieldValue) : value.inMillis.text? = value.text? := by
  cases value <;> rfl

/-- Values of one kind compare as their cells. -/
theorem FieldValue.order?_cell {kind : FieldKind} {value bound : FieldValue}
    (left : value.IsOf kind) (right : bound.IsOf kind) :
    value.cell.order? bound.cell = value.order? bound := by
  cases kind <;> cases value <;> cases bound <;> first
    | exact left.elim
    | exact right.elim
    | rfl
    | exact congrArg some (Instant.order_eq_compare left right).symm

theorem FieldValue.order?_eq_some_eq_iff (value bound : FieldValue) :
    value.order? bound = some .eq ↔ value ≠ .absent ∧ value = bound := by
  cases value <;> cases bound <;> simp [order?, Instant.order_eq_eq_iff]

theorem FieldValue.cell_eq_null_iff {value : FieldValue} : value.cell = .null ↔ value = .absent := by
  cases value <;> simp [cell]

namespace Truth

theorem isYes_ofBool (flag : Bool) : (ofBool flag).isYes = flag := by cases flag <;> rfl

theorem isYes_and (first second : Truth) :
    (first.and second).isYes = (first.isYes && second.isYes) := by
  cases first <;> cases second <;> rfl

theorem isYes_or (first second : Truth) :
    (first.or second).isYes = (first.isYes || second.isYes) := by
  cases first <;> cases second <;> rfl

end Truth

namespace Cell

/-- A comparison is known to come out in a given way where it comes out so at all. -/
theorem isYes_test (accept : Ordering → Bool) (cell value : Cell) :
    (cell.test accept value).isYes = (cell.order? value).any accept := by
  unfold test
  cases cell.order? value with
  | none => rfl
  | some order => exact Truth.isYes_ofBool _

theorem isYes_isIn (cell : Cell) (values : List Cell) :
    (cell.isIn values).isYes = values.any fun value => (cell.equals value).isYes := by
  unfold isIn
  induction values with
  | nil => rfl
  | cons value rest hypothesis =>
    rw [List.foldr_cons, Truth.isYes_or, hypothesis, List.any_cons]

end Cell

namespace OrderRow

/-! ### Rows of orders -/

/-- A row was made of an order; its document may have an earlier version. -/
structure Keeps (row : OrderRow) (order : Order) : Prop where
  version : row.version = order.version
  made : ∃ version, ofOrder { order with version } = .ok { row with version }

namespace Keeps

variable {row : OrderRow} {order : Order}

/-- The columns of a row. -/
theorem columns (keeps : row.Keeps order) : ∃ income version,
    order.projectIncome.toMinor? = some income
      ∧ row =
        { id := order.id
          version := order.version
          merchantId := order.merchantId
          projectId := order.project.id
          projectName := order.project.name
          projectAccount := order.projectAccount
          projectOrderId := order.projectOrderId
          incomeMinor := income
          packageName := order.package.map (·.name)
          methodId := order.method.map (·.id)
          methodName := order.method.map (·.name)
          methodPayerAccount := order.methodPayerAccount
          payerCountry := order.payer.country
          payerPhone := order.payer.phone
          payerEmail := order.payer.email
          statusCode := order.status.code
          createdAt := order.createdAt.toMillis
          methodClosedAt := order.methodClosedAt.map Instant.toMillis
          document := { order with version }.write.write } := by
  obtain ⟨same_version, version, made⟩ := keeps
  unfold ofOrder at made
  split at made
  · nomatch made
  · rename_i income hasMinor
    refine ⟨income, version, hasMinor, ?_⟩
    have fields := Except.ok.inj made
    have label : row = { { row with version } with version := order.version } := by
      rw [← same_version]
    rw [label, ← fields]
    rfl

theorem id (keeps : row.Keeps order) : row.id = order.id := by
  obtain ⟨income, version, -, rfl⟩ := keeps.columns
  rfl

theorem labels (keeps : row.Keeps order) : row.Labels order := ⟨keeps.id, keeps.version⟩

/-- The column of an attribute holds its value. -/
theorem cell_eq (keeps : row.Keeps order) (field : OrderField) :
    row.cell field = (field.valueOf order).cell := by
  have text (content : Option String) :
      Cell.ofText? content = (FieldValue.ofText? content).cell := by
    cases content <;> rfl
  obtain ⟨income, version, -, rfl⟩ := keeps.columns
  cases field with
  | methodClosedAt =>
    unfold cell OrderField.valueOf
    cases order.methodClosedAt <;> rfl
  | projectOrderId | packageName | methodId | methodName | methodPayerAccount | payerCountry
  | payerPhone | payerEmail => exact text _
  | id | projectId | projectName | projectAccount | status | createdAt => rfl

/-- The search column of free text holds the folded text, if there is any. -/
theorem searchText?_eq (keeps : row.Keeps order) {field : OrderField}
    (free : field ∈ OrderField.freeText) :
    row.searchText? field = some ((field.valueOf order).text?.map Text.fold) := by
  have text (content : Option String) :
      content.map Text.fold = (FieldValue.ofText? content).text?.map Text.fold := by
    cases content <;> rfl
  obtain ⟨income, version, -, rfl⟩ := keeps.columns
  cases field with
  | projectOrderId | packageName | methodName | methodPayerAccount | payerPhone | payerEmail =>
    exact congrArg some (text _)
  | id | projectName | projectAccount => rfl
  | projectId | methodId | payerCountry | status | createdAt | methodClosedAt =>
    exact absurd free (by decide)

end Keeps

/-! ### Comparisons -/

section Comparisons

variable {kind : FieldKind} {value bound : FieldValue}

theorem isYes_equals (left : value.IsOf kind) (right : bound.IsOf kind) :
    (value.cell.equals bound.cell).isYes = (value != .absent && value == bound) := by
  unfold Cell.equals
  rw [Cell.isYes_test, FieldValue.order?_cell left right, Bool.eq_iff_iff, Bool.and_eq_true,
    bne_iff_ne, beq_iff_eq, ← FieldValue.order?_eq_some_eq_iff, Option.any_eq_true]
  simp

theorem isYes_isIn {values : List FieldValue} (left : value.IsOf kind)
    (right : ∀ bound ∈ values, bound.IsOf kind) :
    (value.cell.isIn (values.map (·.cell))).isYes
      = (value != .absent && values.contains value) := by
  rw [Cell.isYes_isIn, List.any_map]
  induction values with
  | nil => simp
  | cons first rest hypothesis =>
    rw [List.forall_mem_cons] at right
    rw [List.any_cons, hypothesis right.2, Function.comp_apply, isYes_equals left right.1,
      List.contains_cons, ← Bool.and_or_distrib_left]

/-- A range's lower end, where the value is not absent. -/
theorem isYes_least {least : Option FieldValue} (left : value.IsOf kind)
    (right : ∀ bound ∈ least, bound.IsOf kind) :
    (checkBound (· != .lt) value.cell least).isYes = Condition.atLeast value least := by
  cases least with
  | none => rfl
  | some bound =>
    rw [checkBound, Cell.isYes_test, FieldValue.order?_cell left (right bound rfl),
      Condition.atLeast]
    rcases value.order? bound with _ | _ | _ | _ <;> rfl

/-- A range's upper end, where the value is not absent. -/
theorem isYes_most {most : Option FieldValue} (left : value.IsOf kind)
    (right : ∀ bound ∈ most, bound.IsOf kind) :
    (checkBound (· != .gt) value.cell most).isYes = Condition.atMost value most := by
  cases most with
  | none => rfl
  | some bound =>
    rw [checkBound, Cell.isYes_test, FieldValue.order?_cell left (right bound rfl),
      Condition.atMost]
    rcases value.order? bound with _ | _ | _ | _ <;> rfl

end Comparisons

theorem evaluates_check (row : OrderRow) :
    Condition.Evaluates fun condition => (row.check condition).isYes := by
  constructor
  · intro conditions
    simp only [check]
    induction conditions with
    | nil => rfl
    | cons condition rest hypothesis =>
      rw [checkAny, Truth.isYes_or, hypothesis, List.map_cons, List.or_cons]
  · intro conditions
    simp only [check]
    induction conditions with
    | nil => rfl
    | cons condition rest hypothesis =>
      rw [checkAll, Truth.isYes_and, hypothesis, List.map_cons, List.and_cons]

/-- One comparison on a row and on its order. -/
theorem isYes_check_of_isTyped {row : OrderRow} {order : Order} (keeps : row.Keeps order)
    (searchable : order.IsSearchable) (condition : Condition) (typed : condition.IsTyped) :
    (row.check condition).isYes = condition.holds order.inMillis := by
  have cell (field : OrderField) : row.cell field = (field.valueOf order.inMillis).cell := by
    rw [keeps.cell_eq, order.valueOf_inMillis, FieldValue.cell_inMillis]
  cases condition with
  | equals field bound =>
    have fits := order.isOf_valueOf_inMillis field
    by_cases absent : bound = .absent
    · rw [absent, check, Truth.isYes_ofBool, Condition.holds, cell, Bool.eq_iff_iff, beq_iff_eq,
        beq_iff_eq, FieldValue.cell_eq_null_iff]
    · have compared : row.check (.equals field bound) = (row.cell field).equals bound.cell := by
        cases bound with
        | absent => exact absurd rfl absent
        | text | number | time => rfl
      rw [compared, cell, isYes_equals fits typed, Condition.holds]
      by_cases same : field.valueOf order.inMillis = bound
      · simp [same, absent]
      · simp [same]
  | oneOf field values =>
    rw [check, cell, isYes_isIn (order.isOf_valueOf_inMillis field) typed, Condition.holds]
  | between field least most =>
    have fits := order.isOf_valueOf_inMillis field
    have present : ((field.valueOf order.inMillis).cell != .null)
        = (field.valueOf order.inMillis != .absent) := by
      rw [Bool.eq_iff_iff, bne_iff_ne, bne_iff_ne, Ne, FieldValue.cell_eq_null_iff]
    rw [check, Truth.isYes_and, Truth.isYes_and, Truth.isYes_ofBool, cell, present,
      isYes_least fits typed.1, isYes_most fits typed.2, Condition.holds]
  | contains field pattern =>
    obtain ⟨free, pattern_searchable⟩ := typed
    rw [check, keeps.searchText?_eq free, Condition.holds, order.valueOf_inMillis,
      FieldValue.text?_inMillis]
    cases text : (field.valueOf order).text? with
    | none => rfl
    | some content =>
      rw [Option.map_some, checkText, Truth.isYes_ofBool]
      exact hasPattern_patternAround (searchable field free content text) pattern_searchable
  | any | all => exact typed.elim

/-- **A row is selected by a condition exactly where its order, in whole milliseconds, meets it.**
-/
theorem isYes_check {row : OrderRow} {order : Order} (keeps : row.Keeps order)
    (searchable : order.IsSearchable) {condition : Condition}
    (typed : condition.Every Condition.IsTyped) :
    (row.check condition).isYes = condition.holds order.inMillis :=
  Condition.eq_of_every row.evaluates_check (Condition.evaluates_holds order.inMillis)
    (isYes_check_of_isTyped keeps searchable) condition typed

end OrderRow

end Paydesk
