/-
**The documents of a condition and of an envelope.**

A condition is an object with a single field, named for the kind of the condition: `eq`, `in`,
`range` and `contains` list an attribute and what it is compared with, `or` and `and` list
conditions. A value to be read says its kind; a written one is a text.

* `Condition.read?`, `Condition.write`: conditions as documents;
* `Envelope.read?`: an envelope of an object, or of a list of keys with one value each.
-/

import Paydesk.Json.Record
import Paydesk.Query.Envelope

namespace Paydesk

/-- The attribute of a document. -/
def OrderField.read? (json : Json) : Option OrderField := json.text? >>= OrderField.ofName?

/-- The document of an attribute. -/
def OrderField.write (field : OrderField) : Json := .text field.name

/-- A time in milliseconds since 1970. -/
def Json.readMillis? : Json → Option Instant
  | .int millis => Instant.ofMillis? millis
  | _ => none

namespace FieldValue

/-- The value of a document. -/
def read? : Json → Option FieldValue
  | .null => some absent
  | .object [("text", .text content)] => some (text content)
  | .object [("int", value)] => (Json.readInt64? value).map fun short => number short.toInt
  | .object [("time_ms", millis)] => (Json.readMillis? millis).map time
  | _ => none

/-- The document of a value. -/
def write (value : FieldValue) : Json := .text value.display

end FieldValue

namespace Condition

mutual

/-- The condition of a document. -/
def read? : Json → Option Condition
  | .object [("eq", .list [field, value])] => do
    return .equals (← OrderField.read? field) (← FieldValue.read? value)
  | .object [("in", .list [field, .list values])] => do
    return .oneOf (← OrderField.read? field) (← values.mapM FieldValue.read?)
  | .object [("range", .list [field, least, most])] => do
    let bound := Json.readOption? FieldValue.read?
    return .between (← OrderField.read? field) (← bound least) (← bound most)
  | .object [("contains", .list [field, .text pattern])] => do
    return .contains (← OrderField.read? field) pattern
  | .object [("or", .list items)] => (readAll? items).map .any
  | .object [("and", .list items)] => (readAll? items).map .all
  | _ => none

/-- The conditions of a list of documents. -/
def readAll? : List Json → Option (List Condition)
  | [] => some []
  | item :: rest => do return (← read? item) :: (← readAll? rest)

end

mutual

/-- The document of a condition. -/
def write : Condition → Json
  | equals field value => .object [("eq", .list [field.write, value.write])]
  | oneOf field values =>
    .object [("in", .list [field.write, Json.writeList FieldValue.write values])]
  | between field least most =>
    .object [("range", .list [field.write, Json.writeOption FieldValue.write least,
      Json.writeOption FieldValue.write most])]
  | contains field pattern => .object [("contains", .list [field.write, .text pattern])]
  | any conditions => .object [("or", .list (writeAll conditions))]
  | all conditions => .object [("and", .list (writeAll conditions))]

/-- The documents of a list of conditions. -/
def writeAll : List Condition → List Json
  | [] => []
  | condition :: rest => condition.write :: writeAll rest

end

end Condition

namespace Envelope

/-- The envelope of an object. -/
def readDict? (json : Json) : Option Envelope :=
  Json.readTextDict? (Json.readList? Json.text?) json

/-- A key and a value. -/
def readPair? : Json → Option (String × String)
  | .list [.text key, .text value] => some (key, value)
  | _ => none

/-- The envelope of a document; null is the empty one. -/
def read? : Json → Option Envelope
  | .null => some ∅
  | .list pairs => do
    return (← pairs.mapM readPair?).foldl (fun envelope (key, value) => envelope.add key value) ∅
  | json => readDict? json

end Envelope

end Paydesk
