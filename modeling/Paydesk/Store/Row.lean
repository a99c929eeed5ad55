/-
**Orders as rows of a table.**

A row holds the document of an order in text, its version, and columns with the attributes that
queries look at: the project's income in minor units and times in milliseconds. The version of the
row counts, not that of the document.

* `OrderRow.ofOrder`, `OrderRow.toOrder`: orders and their rows;
* `OrderRow.cell`, `OrderRow.searchText?`: the columns of an attribute;
* `OrderRow.check`: whether a row meets a condition.
-/

import Paydesk.Json.Reader
import Paydesk.Json.Writer
import Paydesk.Order.Document
import Paydesk.Query.Condition
import Paydesk.Store.Cell
import Paydesk.Store.Error
import Paydesk.Store.Pattern

namespace Paydesk

/-- An order as a row. -/
structure OrderRow where
  id : String
  version : Int64
  merchantId : String
  projectId : String
  projectName : String
  projectAccount : String
  projectOrderId : Option String
  incomeMinor : Int64
  packageName : Option String
  methodId : Option String
  methodName : Option String
  methodPayerAccount : Option String
  payerCountry : Option String
  payerPhone : Option String
  payerEmail : Option String
  statusCode : Int
  createdAt : Int
  methodClosedAt : Option Int
  document : String

namespace OrderRow

/-- The row of an order; there is none for an income that has too many minor units. -/
def ofOrder (order : Order) : Except StoreError OrderRow :=
  match order.projectIncome.toMinor? with
  | none => .error (.badDocument s!"Income amount {order.projectIncome.write} is out of range")
  | some incomeMinor =>
    .ok
      { id := order.id
        version := order.version
        merchantId := order.merchantId
        projectId := order.project.id
        projectName := order.project.name
        projectAccount := order.projectAccount
        projectOrderId := order.projectOrderId
        incomeMinor
        packageName := order.package.map (·.name)
        methodId := order.method.map (·.id)
        methodName := order.method.map (·.name)
        methodPayerAccount := order.methodPayerAccount
        payerCountry := order.payer.country
        payerPhone := order.payer.phone
        payerEmail := order.payer.email
        statusCode := order.status.code
        createdAt := order.createdAt.toMillis
        methodClosedAt := order.methodClosedAt.map Instant.toMillis
        document := order.write.write }

/-- The order of a row. -/
def toOrder (row : OrderRow) : Except StoreError Order :=
  match Json.read? row.document >>= Order.read? with
  | some order => .ok { order with version := row.version }
  | none =>
    .error (.badDocument "data did not match any variant of untagged enum PrimitiveValue")

/-- The column of an attribute. -/
def cell (row : OrderRow) : OrderField → Cell
  | .id => .text row.id
  | .projectId => .text row.projectId
  | .projectName => .text row.projectName
  | .projectAccount => .text row.projectAccount
  | .projectOrderId => .ofText? row.projectOrderId
  | .packageName => .ofText? row.packageName
  | .methodId => .ofText? row.methodId
  | .methodName => .ofText? row.methodName
  | .methodPayerAccount => .ofText? row.methodPayerAccount
  | .payerCountry => .ofText? row.payerCountry
  | .payerPhone => .ofText? row.payerPhone
  | .payerEmail => .ofText? row.payerEmail
  | .status => .number row.statusCode
  | .createdAt => .number row.createdAt
  | .methodClosedAt =>
    match row.methodClosedAt with
    | some millis => .number millis
    | none => .null

/-- The text in the column that a search for an attribute looks at: free text in small letters, ids
and codes as they are, and no column at all for numbers and times. -/
def searchText? (row : OrderRow) : OrderField → Option (Option String)
  | .id => some (some (Text.fold row.id))
  | .projectName => some (some (Text.fold row.projectName))
  | .projectAccount => some (some (Text.fold row.projectAccount))
  | .projectOrderId => some (row.projectOrderId.map Text.fold)
  | .packageName => some (row.packageName.map Text.fold)
  | .methodName => some (row.methodName.map Text.fold)
  | .methodPayerAccount => some (row.methodPayerAccount.map Text.fold)
  | .payerPhone => some (row.payerPhone.map Text.fold)
  | .payerEmail => some (row.payerEmail.map Text.fold)
  | .projectId => some (some row.projectId)
  | .methodId => some row.methodId
  | .payerCountry => some row.payerCountry
  | .status | .createdAt | .methodClosedAt => none

end OrderRow

/-- The cell of a value. -/
def FieldValue.cell : FieldValue → Cell
  | absent => .null
  | text content => .text content
  | number value => .number value
  | time instant => .number instant.toMillis

namespace OrderRow

/-- Whether a cell lies on the right side of a bound; a missing bound leaves the range open. -/
def checkBound (accept : Ordering → Bool) (cell : Cell) : Option FieldValue → Truth
  | some bound => cell.test accept bound.cell
  | none => .yes

/-- Whether the text of a column contains a pattern. -/
def checkText (pattern : String) : Option (Option String) → Truth
  | none => .no
  | some none => .unknown
  | some (some content) =>
    .ofBool (hasPattern content.toList (patternAround (Text.fold pattern).toList))

mutual

/-- Whether a row meets a condition. -/
def check (row : OrderRow) : Condition → Truth
  | .equals field .absent => .ofBool (row.cell field == .null)
  | .equals field value => (row.cell field).equals value.cell
  | .oneOf field values => (row.cell field).isIn (values.map (·.cell))
  | .between field least most =>
    ((Truth.ofBool (row.cell field != .null)).and
      (checkBound (· != .lt) (row.cell field) least)).and
      (checkBound (· != .gt) (row.cell field) most)
  | .contains field pattern => checkText pattern (row.searchText? field)
  | .any conditions => row.checkAny conditions
  | .all conditions => row.checkAll conditions

/-- Whether a row meets one of a list of conditions. -/
def checkAny (row : OrderRow) : List Condition → Truth
  | [] => .no
  | condition :: rest => (row.check condition).or (row.checkAny rest)

/-- Whether a row meets every one of a list of conditions. -/
def checkAll (row : OrderRow) : List Condition → Truth
  | [] => .yes
  | condition :: rest => (row.check condition).and (row.checkAll rest)

end

end OrderRow

end Paydesk
