/-
**Query envelopes and the conditions they stand for.**

A query names keys with lists of values. A quick filter looks for one text in several attributes
and leaves all other keys aside; else every key adds a condition, and all must hold. Either way
only orders of accessible projects are found.

* `Envelope.isQuick`: whether a query is a quick filter;
* `Envelope.condition`: the condition of a query.
-/

import Paydesk.Query.Condition

namespace Paydesk

/-- Keys with lists of values. -/
abbrev Envelope : Type := Dict String (List String)

namespace Envelope

/-- Adds a value to those of a key. -/
def add (envelope : Envelope) (key value : String) : Envelope :=
  envelope.alter key fun values => values.getD [] ++ [value]

/-- The first value of a key. -/
def first? (envelope : Envelope) (key : String) : Option String :=
  envelope.get? key >>= List.head?

/-- Whether the query names the quick filter. -/
def isQuick (envelope : Envelope) : Bool := envelope.contains "quick_filter"

/-- The instant of a number of seconds since 1970; a text that gives none is left aside. -/
def readSeconds? (text : String) : Option FieldValue := do
  let seconds ← Text.readInt64? (Text.trimBlank text)
  return .time (← Instant.ofSeconds? seconds.toInt)

/-- A range of time, if either bound is given. -/
def timeRange (envelope : Envelope) (field : OrderField) (leastKey mostKey : String) :
    List Condition :=
  let least := envelope.first? leastKey >>= readSeconds?
  let most := envelope.first? mostKey >>= readSeconds?
  if least.isSome || most.isSome then [.between field least most] else []

/-- The attributes that a quick filter looks at. -/
def quickFields : List OrderField :=
  [.projectName, .projectAccount, .projectOrderId, .packageName, .methodName, .id]

/-- The attributes that an account is looked for in. -/
def accountFields : List OrderField :=
  [.projectAccount, .methodPayerAccount, .payerPhone, .payerEmail]

/-- A text that occurs in one of several attributes. -/
def containsIn (fields : List OrderField) (text : String) : Condition :=
  .any (fields.map fun field => .contains field text)

/-- An id in full, or a part of one. -/
def idCondition (id : String) : Condition :=
  if isCanonicalId id then .equals .id (.text id) else .contains .id id

/-- One of several texts. -/
def textsCondition (field : OrderField) (texts : List String) : Condition :=
  .oneOf field (texts.map .text)

/-- One of several status numbers; texts that are no numbers are left aside. -/
def statusCondition (texts : List String) : List Condition :=
  let codes := texts.filterMap fun text => Text.readInt64? (Text.trimBlank text)
  if codes.isEmpty then [] else [.oneOf .status (codes.map fun code => .number code.toInt)]

/-- The conditions of the keys of a query that is no quick filter. -/
def keyConditions (envelope : Envelope) : List Condition :=
  ((envelope.first? "id").map idCondition).toList
    ++ ((envelope.get? "payment_methods").map (textsCondition .methodId)).toList
    ++ ((envelope.get? "countries").map (textsCondition .payerCountry)).toList
    ++ ((envelope.get? "statuses").map statusCondition).getD []
    ++ ((envelope.first? "account").map (containsIn accountFields)).toList
    ++ envelope.timeRange .methodClosedAt "pm_date_from" "pm_date_to"
    ++ envelope.timeRange .createdAt "project_date_from" "project_date_to"

/-- The condition of a query over the orders of some projects. -/
def condition (envelope : Envelope) (accessible : List String) : Condition :=
  let scope := textsCondition .projectId accessible
  match envelope.first? "quick_filter" with
  | some text => .all [scope, containsIn quickFields text]
  | none => .all (scope :: envelope.keyConditions)

end Envelope

end Paydesk
